import AdvisoryFeed.Config.Value
import AdvisoryFeed.Http.Answer

/-!
# Recorded feeds

A feed that was written down: a table of URLs, each with a text, with a response, or with a list of
such answers.
-/

namespace AdvisoryFeed.Http

open AdvisoryFeed.Config

/-- The fields of a recorded response. -/
def recordedHeaders (entries : List (String × Value)) : Headers :=
  match entries.lookup "headers" with
  | some (.table headers) =>
    headers.filterMap fun entry => entry.2.text?.map fun value => (entry.1, value)
  | _ => []

/-- The answer that a value stands for. -/
def Answer.ofValue : Value → Answer
  | .text body => .response ⟨200, [], body.toUTF8.toList⟩
  | .table entries =>
    let body := ((entries.lookup "text").bind Value.text?).getD ""
    let status := ((entries.lookup "status").bind Value.int?).getD 200
    .response ⟨status, recordedHeaders entries, body.toUTF8.toList⟩
  | _ => Answer.notFound

/-- The answers that a value stands for. -/
def answersOf : Value → List Answer
  | .list items => items.map Answer.ofValue
  | value => [Answer.ofValue value]

/-- The feed that a value stands for. -/
def Feed.ofValue : Value → Feed
  | .table entries => entries.map fun entry => (entry.1, answersOf entry.2)
  | _ => []

end AdvisoryFeed.Http
