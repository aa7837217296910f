import AdvisoryFeed.Http.Breaker
import AdvisoryFeed.Http.Machine
import AdvisoryFeed.Http.RetryAfter

/-!
# Client

A client asks for documents. A request that fails for a passing reason is tried again after a while,
which doubles from attempt to attempt; the rate limiter spaces the attempts and the circuit breaker
stops them when too many requests have failed. A wait that the machine refuses ends the request, and
so does a delay that cannot be told; of both the breaker hears nothing. The network is a value: the
answers to come, the clocks, the machine, and what was asked and waited for.
-/

namespace AdvisoryFeed.Http

open AdvisoryFeed.Decimal AdvisoryFeed.Time

/-- A request as it was sent. -/
structure Call where
  url : String
  headers : Option Headers
  timeout : Float

/-- The outside world of a client. -/
structure Network where
  feed : Feed
  /-- Seconds on a clock that only goes on. -/
  clock : Float
  /-- The date and time. -/
  now : Instant
  machine : Machine
  /-- Where in its range each of the delays to come is chosen, from 0 to 1. -/
  jitter : Nat → Float
  calls : List Call
  sleeps : List Float

/-- The network after a wait of some seconds. -/
def Network.wait (network : Network) (seconds : Float) : Network :=
  { network with
    clock := network.machine.clockAfter network.clock seconds
    now := network.machine.nowAfter network.now seconds
    sleeps := network.sleeps ++ [seconds] }

/-- The network after a delay has been chosen. -/
def Network.drawn (network : Network) : Network :=
  { network with jitter := fun n => network.jitter (n + 1) }

/-- Sends a request and takes the answer. -/
def Network.exchange (network : Network) (call : Call) : Answer × Network :=
  let next := network.feed.ask call.url
  (next.1, { network with feed := next.2, calls := network.calls ++ [call] })

/-- Forgets what was asked and waited for. -/
def Network.forget (network : Network) : Network :=
  { network with calls := [], sleeps := [] }

/-- How often and how soon a request is tried again. -/
structure RetryPolicy where
  maxRetries : Int
  /-- The delay before the first further attempt. -/
  baseDelay : Float
  /-- The greatest delay, without its random part. -/
  maxDelay : Float
  /-- The greatest random part of a delay, as a fraction of it. -/
  jitterRatio : Float
  /-- The seconds after which an attempt is given up. -/
  timeout : Float

/-- The policy unless another is asked for. -/
def RetryPolicy.default : RetryPolicy :=
  ⟨3, 1.0, 60.0, 0.3, 30.0⟩

/-- The name under which a client presents itself unless another is asked for. -/
def defaultUserAgent : String := "oval-pipeline/0.1"

/-- A client. -/
structure Client where
  /-- The name of what it asks for. -/
  source : String
  userAgent : String
  policy : RetryPolicy
  limiter : Limiter
  breaker : Breaker

/-- Why a request fails. -/
inductive HttpError where
  | circuitOpen (source : String)
  | connection (kind : FailureKind) (message : String)
  /-- The server cannot answer for now. -/
  | unavailable (status : Int)
  /-- The server refuses to answer. -/
  | refused (status : Int) (url : String)
  /-- No attempt is allowed. -/
  | noAttempt
  /-- A delay, a date or a limit is beyond all numbers. -/
  | overflow (message : String)
  /-- The machine does not wait. -/
  | wait (error : WaitError)
deriving DecidableEq, Repr

/-- The name of the kind of error. -/
def HttpError.name : HttpError → String
  | .circuitOpen _ => "CircuitOpenError"
  | .connection kind _ => kind.name
  | .unavailable _ => FailureKind.protocol.name
  | .refused _ _ => FailureKind.protocol.name
  | .noAttempt => FailureKind.runtime.name
  | .overflow _ => "OverflowError"
  | .wait error => error.name

/-- The wording of the error. -/
def HttpError.message : HttpError → String
  | .circuitOpen source => source ++ " circuit open"
  | .connection _ message => message
  | .unavailable status => "HTTP " ++ showInt status
  | .refused status url => "HTTP " ++ showInt status ++ " for " ++ url
  | .noAttempt => "HTTP request failed"
  | .overflow message => message
  | .wait error => error.message

/-- The error is one of the exchange with the server or of the breaker. -/
def HttpError.isTransport : HttpError → Bool
  | .circuitOpen _ | .unavailable _ | .refused _ _ => true
  | .connection kind _ => kind.isTransient
  | .noAttempt | .overflow _ | .wait _ => false

/-- Waits, if the machine does. -/
def Network.sleep (network : Network) (seconds : Float) : Except HttpError Network :=
  match network.machine.refusal? seconds with
  | some error => .error (.wait error)
  | none => .ok (network.wait seconds)

/-- The statuses after which a request is tried again. -/
def retryableStatuses : List Int :=
  [429, 500, 502, 503, 504]

/-- What an answer means for a request. -/
inductive Verdict where
  | success (response : Response)
  /-- The request may be tried again, after a while that the server may name. -/
  | retry (error : HttpError) (headers : Headers)
  /-- The request has failed for good. -/
  | final (error : HttpError)
  /-- Something went wrong that is no outcome of the request. -/
  | broken (error : HttpError)
deriving DecidableEq, Repr

/-- What an answer for a URL means. -/
def Answer.verdict (url : String) : Answer → Verdict
  | .failure kind message =>
    if kind.isTransient then .retry (.connection kind message) []
    else .broken (.connection kind message)
  | .response reply =>
    if retryableStatuses.contains reply.status then .retry (.unavailable reply.status) reply.headers
    else if 200 ≤ reply.status && reply.status < 300 then .success reply
    else .final (.refused reply.status url)

/-- The delay before the attempt behind the one of the given number, which counts from zero, by the
policy alone. -/
def RetryPolicy.delay (policy : RetryPolicy) (attempt : Nat) (jitter : Float) :
    Except HttpError Float :=
  if 1024 ≤ attempt then .error (.overflow tooLargeForDouble)
  else
    let base := least policy.maxDelay (policy.baseDelay * Float.ofNat (Nat.pow 2 attempt))
    .ok (base + base * (0.0 + (policy.jitterRatio - 0.0) * jitter))

/-- The delay before the next attempt, which is no shorter than what the server asks for. -/
def RetryPolicy.backoff (policy : RetryPolicy) (attempt : Nat) (jitter : Float) (now : Instant)
    (headers : Headers) : Except HttpError Float :=
  match retryAfter headers now with
  | .error message => .error (.overflow message)
  | .ok asked => (policy.delay attempt jitter).map fun delay =>
    match asked with
    | none => delay
    | some seconds => greatest delay seconds

/-- A client and its network. -/
structure Session where
  client : Client
  network : Network

/-- Refills the bucket of the limiter. -/
def Session.refill (session : Session) (rate burst : Float) : Session :=
  let limiter := session.client.limiter.refill rate burst session.network.clock
  { session with client := { session.client with limiter := limiter } }

/-- Takes a token that the limiter has. -/
def Session.take (session : Session) : Session :=
  { session with client := { session.client with limiter := session.client.limiter.take } }

/-- Takes a token from the limiter, waiting for it if there is none. -/
def Session.acquire (session : Session) : Except HttpError Unit × Session :=
  match session.client.limiter.limit? with
  | none => (.ok (), session)
  | some (rate, burst) =>
    if session.client.limiter.isFinite then
      let refilled := session.refill rate burst
      match refilled.client.limiter.shortage? rate with
      | none => (.ok (), refilled.take)
      | some seconds =>
        match refilled.network.sleep seconds with
        | .error error => (.error error, refilled)
        | .ok network => (.ok (), ({ refilled with network := network }.refill rate burst).take)
    else (.error (.overflow tooLargeForDouble), session)

/-- The request has succeeded. -/
def Session.succeed (session : Session) : Session :=
  { session with client := { session.client with breaker := session.client.breaker.succeed } }

/-- The request has failed. -/
def Session.fail (session : Session) : Session :=
  let breaker := session.client.breaker.fail session.network.clock
  { session with client := { session.client with breaker := breaker } }

/-- Sends a request and takes the answer. -/
def Session.send (session : Session) (url : String) (headers : Option Headers) : Answer × Session :=
  let answered := session.network.exchange ⟨url, headers, session.client.policy.timeout⟩
  (answered.1, { session with network := answered.2 })

/-- Takes a token, sends a request and takes the answer. -/
def Session.exchange (session : Session) (url : String) (headers : Option Headers) :
    Except HttpError Answer × Session :=
  let taken := session.acquire
  match taken.1 with
  | .error error => (.error error, taken.2)
  | .ok () =>
    let answered := taken.2.send url headers
    (.ok answered.1, answered.2)

/-- Waits between the attempt of the given number and the next one. -/
def Session.pause (session : Session) (attempt : Nat) (asked : Headers) :
    Except HttpError Unit × Session :=
  match session.client.policy.backoff attempt (session.network.jitter 0) session.network.now
      asked with
  | .error error => (.error error, session)
  | .ok delay =>
    let drawn := session.network.drawn
    match drawn.sleep delay with
    | .error error => (.error error, { session with network := drawn })
    | .ok network => (.ok (), { session with network := network })

/-- Tries a request at most the given number of times, the first attempt having the given number. -/
def Session.tryRequest (url : String) (headers : Option Headers) :
    Nat → Nat → Session → Except HttpError Response × Session
  | 0, _, session => (.error .noAttempt, session.fail)
  | left + 1, attempt, session =>
    let exchanged := session.exchange url headers
    match exchanged.1 with
    | .error error => (.error error, exchanged.2)
    | .ok answer =>
      match answer.verdict url with
      | .success response => (.ok response, exchanged.2.succeed)
      | .final error => (.error error, exchanged.2.fail)
      | .broken error => (.error error, exchanged.2)
      | .retry error asked =>
        if left = 0 then (.error error, exchanged.2.fail)
        else
          let paused := exchanged.2.pause attempt asked
          match paused.1 with
          | .error broken => (.error broken, paused.2)
          | .ok () => tryRequest url headers left (attempt + 1) paused.2

/-- Requests a document, if the breaker grants it. -/
def Session.request (session : Session) (url : String) (headers : Option Headers) :
    Except HttpError Response × Session :=
  let granted := session.client.breaker.attempt session.network.clock
  let session := { session with client := { session.client with breaker := granted.2 } }
  if granted.1 then
    session.tryRequest url headers (session.client.policy.maxRetries + 1).toNat 0
  else (.error (.circuitOpen session.client.source), session)

end AdvisoryFeed.Http
