import AdvisoryFeed.Keyed
import AdvisoryFeed.Text.Utf8

/-!
# Answers and feeds

What comes back when a document is asked for: a response, or a failure of the connection. A `Feed`
is all that can be asked for; it gives the answers for a URL one after the other, and the last of
them again and again.
-/

namespace AdvisoryFeed.Http

open AdvisoryFeed.Text

/-- Fields of a message with their values. -/
abbrev Headers := List (String × String)

/-- The value of a field, the name of which is found in any case; of several the last one counts. -/
def Headers.value? (headers : Headers) (name : String) : Option String :=
  (headers.reverse.find? fun entry =>
    entry.1.map Char.toLower = name.map Char.toLower).map Prod.snd

/-- A response of a server. -/
structure Response where
  status : Int
  headers : Headers
  body : List UInt8
deriving DecidableEq, Repr

/-- The body as a text. -/
def Response.text (response : Response) : String :=
  utf8Text response.body

/-- The ways in which a connection fails. -/
inductive FailureKind where
  | connection
  | timeout
  | request
  | protocol
  /-- A value that the connection cannot use. -/
  | value
  /-- Anything else that goes wrong while it runs. -/
  | runtime
deriving DecidableEq, Repr

/-- The name of a kind of failure. -/
def FailureKind.name : FailureKind → String
  | .connection => "ConnectionError"
  | .timeout => "Timeout"
  | .request => "RequestException"
  | .protocol => "HTTPError"
  | .value => "ValueError"
  | .runtime => "RuntimeError"

/-- All kinds of failures. -/
def FailureKind.all : List FailureKind :=
  [.connection, .timeout, .request, .protocol, .value, .runtime]

/-- The kind of failure with a name. -/
def FailureKind.ofName? (name : String) : Option FailureKind :=
  FailureKind.all.find? fun kind => kind.name = name

/-- A failure of the exchange itself, after which it may be tried again. -/
def FailureKind.isTransient : FailureKind → Bool
  | .value | .runtime => false
  | _ => true

/-- What comes back for a request. -/
inductive Answer where
  | response (response : Response)
  | failure (kind : FailureKind) (message : String)
deriving DecidableEq, Repr

/-- The answers for URLs. -/
abbrev Feed := List (String × List Answer)

/-- The answer for a URL that is not in the feed. -/
def Answer.notFound : Answer :=
  .response ⟨404, [], []⟩

/-- The next answer for a URL, and the feed after it. -/
def Feed.ask (feed : Feed) (url : String) : Answer × Feed :=
  match feed.lookup url with
  | some (answer :: next :: rest) => (answer, putPair url (next :: rest) feed)
  | some [answer] => (answer, feed)
  | _ => (Answer.notFound, feed)

end AdvisoryFeed.Http
