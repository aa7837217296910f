import AdvisoryFeed.Main
import AdvisoryFeed.Proofs.Criteria.Evaluation
import AdvisoryFeed.Proofs.Extraction.Attribution
import AdvisoryFeed.Proofs.Extraction.Branches
import AdvisoryFeed.Proofs.Http.Probes
import AdvisoryFeed.Proofs.Ingest.DocumentedErrors
import AdvisoryFeed.Proofs.Run.Accounts
import AdvisoryFeed.Proofs.Store.References
import AdvisoryFeed.Proofs.Criteria.SiblingOrder
import AdvisoryFeed.Proofs.Extraction.SiblingOrder
import AdvisoryFeed.Proofs.Run.RecordedRuns
import AdvisoryFeed.Proofs.Quality.Formats
import AdvisoryFeed.Proofs.Extraction.Counts
import AdvisoryFeed.Proofs.Decimal.Grammar
import AdvisoryFeed.Proofs.Version
import AdvisoryFeed.Proofs.Store.CommittedRows
import AdvisoryFeed.Proofs.Store.Replay
import AdvisoryFeed.Proofs.Store.Isolation
import AdvisoryFeed.Proofs.Criteria.OrderedProduct
import AdvisoryFeed.Proofs.Oval.Edits
