import AdvisoryFeed.Config.Json
import AdvisoryFeed.Ingest.Updater

/-!
# Settings of updaters

The updater for Oracle Linux as a configuration describes it. What the configuration does not say is
taken from the defaults.
-/

namespace AdvisoryFeed.Ingest

open AdvisoryFeed.Config AdvisoryFeed.Http

/-- Where the documents are unless a configuration says so. -/
def defaultBaseUrl : String := "https://linux.oracle.com/oval/"

/-- How file names start unless a configuration says so. -/
def defaultFilePrefix : String := "com.oracle.elsa-"

/-- The number of downloads at a time unless a configuration says so. -/
def defaultWorkers : Int := 4

/-- What the value under a key is called, with a default. -/
def textSetting (entries : List (String × Value)) (key default : String) : String :=
  ((entries.lookup key).bind Value.label?).getD default

/-- What the value under a key is called, unless it is null, with a default. -/
def nullableSetting (entries : List (String × Value)) (key default : String) : Option String :=
  match entries.lookup key with
  | some .null => none
  | some value => value.label?
  | none => some default

/-- The text under a key, with a default; none for a value of another kind. -/
def plainSetting (entries : List (String × Value)) (key default : String) : Option String :=
  match entries.lookup key with
  | some value => value.text?
  | none => some default

/-- An integer under a key, with a default. -/
def intSetting (entries : List (String × Value)) (key : String) (default : Int) :
    Except ConfigError Int :=
  match entries.lookup key with
  | some value => value.toInt
  | none => .ok default

/-- A text under a key, with a default; a value of another kind is an error. -/
def checkedText (entries : List (String × Value)) (key default : String) (error : ConfigError) :
    Except ConfigError String :=
  match entries.lookup key with
  | some (.text s) => .ok s
  | some _ => .error error
  | none => .ok default

/-- A number under a key, with a default. -/
def realSetting (entries : List (String × Value)) (key : String) (default : Float) : Float :=
  ((entries.lookup key).map (Value.toReal default)).getD default

/-- The retry policy of a configuration. -/
def policyOf (entries : List (String × Value)) : RetryPolicy :=
  let base := RetryPolicy.default
  { maxRetries := ((entries.lookup "max_retries").bind Value.int?).getD base.maxRetries
    baseDelay := realSetting entries "retry_base_seconds" base.baseDelay
    maxDelay := realSetting entries "retry_max_seconds" base.maxDelay
    jitterRatio := base.jitterRatio
    timeout := realSetting entries "timeout_seconds" base.timeout }

/-- The client of a configuration, made at a time. -/
def clientOf (entries : List (String × Value)) (clock : Float) : Client where
  source := oracleId
  userAgent := textSetting entries "user_agent" defaultUserAgent
  policy := policyOf entries
  limiter := Limiter.full ((entries.lookup "rate_limit_per_minute").bind Value.int?)
    ((entries.lookup "rate_limit_burst").bind Value.int?) clock
  breaker := Breaker.fresh defaultThreshold defaultOpenSeconds

/-- The source of a configuration. -/
def sourceOf (entries : List (String × Value)) : Except ConfigError Source := do
  let baseline ← intSetting entries "baseline_id" defaultBaseline
  let workers ← intSetting entries "max_workers" defaultWorkers
  let filePrefix ← checkedText entries "file_prefix" defaultFilePrefix .wrongKind
  let distribution ← checkedText entries "distro_name" "Oracle Linux" .noEntries
  let extractor := Extractor.default Formats.default
  .ok {
    baseUrl := textSetting entries "base_url" defaultBaseUrl
    filePrefix := filePrefix
    baseline := baseline
    referenceSource := plainSetting entries "reference_source" defaultReferenceSource
    workers := max 1 workers
    cursorKey := nullableSetting entries "cursor_key" (defaultCursorKey oracleId)
    extractor := { extractor with
      distribution := distribution
      family := textSetting entries "namespace_prefix" extractor.family } }

/-- The updater for Oracle Linux that a configuration describes, made at a time. -/
def Updater.ofConfig (config : Value) (clock : Float) : Except ConfigError Updater := do
  let entries ← config.optionalEntries
  let source ← sourceOf entries
  .ok ⟨oracleId, source.cursorKey, .source source (clientOf entries clock), .start, Health.fresh⟩

end AdvisoryFeed.Ingest
