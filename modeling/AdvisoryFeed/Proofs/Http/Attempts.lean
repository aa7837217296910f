import AdvisoryFeed.Proofs.Http.Answers
import Mathlib.Data.List.Induction

/-!
# The attempts of a request

`Action` is what a request does: it takes a token, sends a call, or waits before the next attempt.
`Session.ready` is the session when some delays are over, and `Session.answered` the one when the
attempt behind them has its answer; `Session.ComesTo` says how they differ from the session in which
the request began.

There are three things that an attempt may do: without a token it ends the request
(`Session.tryRequest_of_noToken`), it concludes it with its answer (`Session.tryRequest_conclude`),
or it leads on to the delay behind it (`Session.tryRequest_of_isPassing`). So the attempts go along
the way of the request (`Session.Way.tryRequest`), and there is a last one (`Session.exists_end`). It
concludes the request (`Session.ConcludesAt`), or breaks it off without an outcome
(`Session.BreaksAt`).
-/

namespace AdvisoryFeed.Http

/-! ## Actions -/

/-- What a request does on its way. -/
inductive Action where
  /-- A token is taken from the limiter, and waited for if there is none. -/
  | take
  /-- The call is sent. -/
  | send
  /-- A delay is chosen, and waited for before the next attempt. -/
  | wait (seconds : Float)

/-- The attempts that others follow, with the delays behind them. -/
def rounds (delays : List Float) : List Action :=
  delays.flatMap fun delay => [.take, .send, .wait delay]

/-- The attempts of a request, with a delay between any two. -/
def attempts (delays : List Float) : List Action :=
  rounds delays ++ [.take, .send]

section Attempts

variable (url : String) (headers : Option Headers)

/-- The session after an action. -/
def Session.perform (session : Session) : Action → Session
  | .take => session.acquire.2
  | .send => (session.send url headers).2
  | .wait seconds => { session with network := session.network.drawn.wait seconds }

/-- The session after one action after the other. -/
def Session.performAll (session : Session) (actions : List Action) : Session :=
  actions.foldl (Session.perform url headers) session

/-- The session after the last answer. -/
def Session.conclude (session : Session) (answer : Answer) : Session :=
  { session with
    client := { session.client with
      breaker := answer.record session.network.clock session.client.breaker } }

/-- The session when the delays are over. -/
def Session.ready (session : Session) (delays : List Float) : Session :=
  session.performAll url headers (rounds delays)

/-- The session when the attempt behind the delays has its answer. -/
def Session.answered (session : Session) (delays : List Float) : Session :=
  session.performAll url headers (attempts delays)

theorem Session.answered_eq (session : Session) (delays : List Float) :
    session.answered url headers delays =
      ((session.ready url headers delays).acquire.2.send url headers).2 := by
  rw [Session.answered, attempts, Session.performAll, List.foldl_append]
  rfl

theorem Session.ready_concat (session : Session) (delays : List Float) (delay : Float) :
    session.ready url headers (delays ++ [delay]) =
      (session.answered url headers delays).perform url headers (.wait delay) := by
  rw [Session.answered_eq, Session.ready, rounds, List.flatMap_append, Session.performAll,
    List.foldl_append]
  rfl

/-- The delay that follows some delays, as the policy and the server want it. -/
def Session.nextDelay (session : Session) (delays : List Float) : Except HttpError Float :=
  session.client.policy.backoff delays.length (session.network.jitter delays.length)
    (session.answered url headers delays).network.now
    (session.network.feed.answer url delays.length).headers

/-- The later session comes after some delays and calls. -/
structure Session.ComesTo (session : Session) (delays : List Float) (sent : Nat)
    (later : Session) : Prop where
  /-- The client differs in its tokens only. -/
  client : later.client = { session.client with limiter := later.client.limiter }
  limit : later.client.limiter.limit? = session.client.limiter.limit?
  machine : later.network.machine = session.network.machine
  jitter : ∀ i, later.network.jitter i = session.network.jitter (delays.length + i)
  answer : ∀ i, later.network.feed.answer url i = session.network.feed.answer url (sent + i)
  calls : later.network.calls = session.network.calls ++
    List.replicate sent ⟨url, headers, session.client.policy.timeout⟩
  /-- Where nothing is limited, there is nothing to wait for but the delays. -/
  sleeps : session.client.limiter.limit? = none →
    later.network.sleeps = session.network.sleeps ++ delays

section ComesTo

variable {url headers} {session later : Session} {delays : List Float} {sent : Nat}

theorem Session.comesTo_self (session : Session) : session.ComesTo url headers [] 0 session where
  client := rfl
  limit := rfl
  machine := rfl
  jitter i := by rw [List.length_nil, Nat.zero_add]
  answer i := by rw [Nat.zero_add]
  calls := by rw [List.replicate_zero, List.append_nil]
  sleeps _ := by rw [List.append_nil]

theorem Session.ComesTo.take (h : session.ComesTo url headers delays sent later) :
    session.ComesTo url headers delays sent later.acquire.2 := by
  obtain ⟨limiter, clock, now, sleeps, hlimit, hacquire⟩ := later.acquire_eq
  refine ⟨?_, ?_, ?_, ?_, ?_, ?_, ?_⟩
  · rw [hacquire, h.client]
  · rw [hacquire]
    exact hlimit.trans h.limit
  · rw [hacquire]
    exact h.machine
  · rw [hacquire]
    exact h.jitter
  · rw [hacquire]
    exact h.answer
  · rw [hacquire]
    exact h.calls
  · intro hnone
    rw [Session.acquire, h.limit, hnone]
    exact h.sleeps hnone

theorem Session.ComesTo.send (h : session.ComesTo url headers delays sent later) :
    session.ComesTo url headers delays (sent + 1) (later.send url headers).2 where
  client := h.client
  limit := h.limit
  machine := h.machine
  jitter := h.jitter
  answer i := by
    rw [Nat.add_right_comm, Nat.add_assoc]
    exact h.answer (i + 1)
  calls := by
    have htimeout : later.client.policy.timeout = session.client.policy.timeout := by
      rw [h.client]
    change later.network.calls ++ [⟨url, headers, later.client.policy.timeout⟩] = _
    rw [h.calls, htimeout, List.replicate_succ', List.append_assoc]
  sleeps := h.sleeps

theorem Session.ComesTo.wait (h : session.ComesTo url headers delays sent later) (delay : Float) :
    session.ComesTo url headers (delays ++ [delay]) sent
      (later.perform url headers (.wait delay)) where
  client := h.client
  limit := h.limit
  machine := h.machine
  jitter i := by
    rw [List.length_append, List.length_singleton, Nat.add_assoc, Nat.add_comm 1 i]
    exact h.jitter (i + 1)
  answer := h.answer
  calls := h.calls
  sleeps hnone := by
    change later.network.sleeps ++ [delay] = _
    rw [h.sleeps hnone, List.append_assoc]

variable (url headers)

/-- Each delay comes behind one call. -/
theorem Session.comesTo_ready (session : Session) (delays : List Float) :
    session.ComesTo url headers delays delays.length (session.ready url headers delays) := by
  induction delays using List.reverseRecOn with
  | nil => exact session.comesTo_self
  | append_singleton delays delay ih =>
    rw [Session.ready_concat, Session.answered_eq, List.length_append, List.length_singleton]
    exact (ih.take.send).wait delay

theorem Session.comesTo_answered (session : Session) (delays : List Float) :
    session.ComesTo url headers delays (delays.length + 1)
      (session.answered url headers delays) := by
  rw [Session.answered_eq]
  exact (session.comesTo_ready url headers delays).take.send

end ComesTo

/-! ## One attempt -/

section Attempt

variable {url headers} {session : Session} {delays : List Float}

/-- The attempt behind some delays takes the answer of their number. -/
theorem Session.exchange_ready (htaken : (session.ready url headers delays).acquire.1 = .ok ()) :
    (session.ready url headers delays).exchange url headers =
      (.ok (session.network.feed.answer url delays.length),
        session.answered url headers delays) := by
  have hask : ((session.ready url headers delays).network.feed.ask url).1 =
      session.network.feed.answer url delays.length :=
    (session.comesTo_ready url headers delays).answer 0
  rw [Session.exchange_of_taken url headers htaken, hask, ← Session.answered_eq]

/-- The request ends with an answer that is not passing, or that has come to the last attempt. -/
theorem Session.tryRequest_conclude
    (htaken : (session.ready url headers delays).acquire.1 = .ok ()) {left : Nat}
    (hlast : 0 < left → (session.network.feed.answer url delays.length).isPassing = false) :
    (session.ready url headers delays).tryRequest url headers (left + 1) delays.length =
      ((session.network.feed.answer url delays.length).outcome url,
        (session.answered url headers delays).conclude
          (session.network.feed.answer url delays.length)) := by
  rw [Session.tryRequest, Session.exchange_ready htaken]
  cases hpassing : (session.network.feed.answer url delays.length).isPassing with
  | true =>
    -- A passing answer ends the request only at the last attempt, where it counts as a failure.
    have hleft : left = 0 := by
      by_contra hne
      rw [hlast (Nat.pos_of_ne_zero hne)] at hpassing
      exact Bool.false_ne_true hpassing
    obtain ⟨error, hverdict, houtcome, hrecord⟩ := Answer.verdict_of_isPassing url hpassing
    simp only [hverdict, houtcome, hleft, if_true, Session.conclude, hrecord]
    rfl
  | false =>
    rcases Answer.verdict_of_not_isPassing url hpassing with
      ⟨response, hverdict, houtcome, hrecord⟩ | ⟨error, hverdict, houtcome, hrecord⟩ |
      ⟨error, hverdict, houtcome, hrecord⟩
    · simp only [hverdict, houtcome, Session.conclude, hrecord]
      rfl
    · simp only [hverdict, houtcome, Session.conclude, hrecord]
      rfl
    · simp only [hverdict, houtcome, Session.conclude, hrecord]

/-- Without a token the request ends, and no call is sent. -/
theorem Session.tryRequest_of_noToken {error : HttpError}
    (herror : (session.ready url headers delays).acquire.1 = .error error) (left : Nat) :
    (session.ready url headers delays).tryRequest url headers (left + 1) delays.length =
      (.error error, (session.ready url headers delays).acquire.2) := by
  rw [Session.tryRequest, Session.exchange_of_error url headers herror]

/-- Between two attempts there is the next delay, if it can be told and the machine waits for it. -/
theorem Session.pause_answered (session : Session) (delays : List Float) :
    let later := session.answered url headers delays
    later.pause delays.length (session.network.feed.answer url delays.length).headers =
      match session.nextDelay url headers delays with
      | .error error => (.error error, later)
      | .ok delay =>
        match session.network.machine.refusal? delay with
        | some refusal => (.error (.wait refusal), { later with network := later.network.drawn })
        | none => (.ok (), session.ready url headers (delays ++ [delay])) := by
  intro later
  have hcomes : session.ComesTo url headers delays (delays.length + 1) later :=
    session.comesTo_answered url headers delays
  have hpolicy : later.client.policy = session.client.policy := by rw [hcomes.client]
  rw [Session.pause, hpolicy, hcomes.jitter 0]
  change (match session.nextDelay url headers delays with | .error _ => _ | .ok _ => _) = _
  cases session.nextDelay url headers delays with
  | error error => rfl
  | ok delay =>
    have hmachine : later.network.drawn.machine = session.network.machine := hcomes.machine
    dsimp only
    rw [Network.sleep, hmachine]
    cases session.network.machine.refusal? delay with
    | some refusal => rfl
    | none =>
      rw [Session.ready_concat]
      rfl

/-- After a passing answer the request goes on as the pause has it, when attempts are left. -/
theorem Session.tryRequest_of_isPassing
    (htaken : (session.ready url headers delays).acquire.1 = .ok ())
    (hpassing : (session.network.feed.answer url delays.length).isPassing = true) (left : Nat) :
    (session.ready url headers delays).tryRequest url headers (left + 2) delays.length =
      match session.nextDelay url headers delays with
      | .error error => (.error error, session.answered url headers delays)
      | .ok delay =>
        match session.network.machine.refusal? delay with
        | some refusal =>
          let later := session.answered url headers delays
          (.error (.wait refusal), { later with network := later.network.drawn })
        | none => (session.ready url headers (delays ++ [delay])).tryRequest url headers (left + 1)
            (delays.length + 1) := by
  obtain ⟨error, hverdict, -, -⟩ := Answer.verdict_of_isPassing url hpassing
  rw [Session.tryRequest, Session.exchange_ready htaken]
  simp only [hverdict, Nat.add_one_ne_zero, if_false, Session.pause_answered]
  cases session.nextDelay url headers delays with
  | error error => rfl
  | ok delay =>
    dsimp only
    cases session.network.machine.refusal? delay <;> rfl

end Attempt

/-! ## The way of a request -/

/-- The request comes to the attempt behind the delays: for each attempt before it a token is taken,
the answer to its call is passing, and the machine waits for the delay behind it. -/
inductive Session.Way (session : Session) : List Float → Prop where
  | start : Way session []
  | retry {delays : List Float} {delay : Float} : Way session delays →
      (session.ready url headers delays).acquire.1 = .ok () →
      (session.network.feed.answer url delays.length).isPassing = true →
      session.nextDelay url headers delays = .ok delay →
      session.network.machine.refusal? delay = none → Way session (delays ++ [delay])

section Way

variable {url headers} {session : Session} {delays : List Float}

/-- All answers on the way are passing. -/
theorem Session.Way.passing (h : session.Way url headers delays) :
    ∀ i < delays.length, (session.network.feed.answer url i).isPassing = true := by
  induction h with
  | start =>
    intro i hi
    exact absurd hi (Nat.not_lt_zero i)
  | @retry delays delay _ _ hpassing _ _ ih =>
    intro i hi
    rw [List.length_append, List.length_singleton] at hi
    rcases Nat.lt_or_eq_of_le (Nat.le_of_lt_succ hi) with hbefore | rfl
    · exact ih i hbefore
    · exact hpassing

/-- The attempts of a request go along its way, as long as they last. -/
theorem Session.Way.tryRequest (h : session.Way url headers delays) : ∀ left : Nat,
    session.tryRequest url headers (delays.length + left + 1) 0 =
      (session.ready url headers delays).tryRequest url headers (left + 1) delays.length := by
  induction h with
  | start =>
    intro left
    rw [List.length_nil, Nat.zero_add]
    rfl
  | @retry delays delay _ htaken hpassing hdelay hwaits ih =>
    -- The shorter way leaves one attempt more, and the last one waits for the delay.
    intro left
    have hleft : (delays ++ [delay]).length + left + 1 = delays.length + (left + 1) + 1 := by
      rw [List.length_append, List.length_singleton]
      omega
    rw [hleft, ih, Session.tryRequest_of_isPassing htaken hpassing]
    simp only [hdelay, hwaits, List.length_append, List.length_singleton]

end Way

/-! ## The last attempt -/

/-- The attempt behind the delays has a passing answer, and another attempt is left. -/
structure Session.AtRetry (session : Session) (delays : List Float) : Prop where
  way : session.Way url headers delays
  more : delays.length < session.client.policy.maxRetries.toNat
  taken : (session.ready url headers delays).acquire.1 = .ok ()
  passing : (session.network.feed.answer url delays.length).isPassing = true

/-- The attempt behind the delays concludes the request: its answer is not passing, or no attempt is
left. -/
structure Session.ConcludesAt (session : Session) (delays : List Float) : Prop where
  way : session.Way url headers delays
  le : delays.length ≤ session.client.policy.maxRetries.toNat
  taken : (session.ready url headers delays).acquire.1 = .ok ()
  final : delays.length < session.client.policy.maxRetries.toNat →
    (session.network.feed.answer url delays.length).isPassing = false

/-- The attempt behind the delays ends the request without an outcome: there is no token for it, or
its answer is a failure that is none of the exchange, or the delay behind it cannot be told, or the
machine refuses that delay. -/
inductive Session.BreaksAt (session : Session) (delays : List Float) : Prop where
  | token {error : HttpError} : session.Way url headers delays →
      delays.length ≤ session.client.policy.maxRetries.toNat →
      (session.ready url headers delays).acquire.1 = .error error → BreaksAt session delays
  | answer : session.Way url headers delays →
      delays.length ≤ session.client.policy.maxRetries.toNat →
      (session.ready url headers delays).acquire.1 = .ok () →
      (session.network.feed.answer url delays.length).isBroken = true → BreaksAt session delays
  | untold {error : HttpError} : session.AtRetry url headers delays →
      session.nextDelay url headers delays = .error error → BreaksAt session delays
  | refused {delay : Float} {refusal : WaitError} : session.AtRetry url headers delays →
      session.nextDelay url headers delays = .ok delay →
      session.network.machine.refusal? delay = some refusal → BreaksAt session delays

/-- A broken answer concludes the request. -/
theorem Session.concludesAt_of_isBroken {session : Session} {delays : List Float}
    (hway : session.Way url headers delays)
    (hle : delays.length ≤ session.client.policy.maxRetries.toNat)
    (htaken : (session.ready url headers delays).acquire.1 = .ok ())
    (hbroken : (session.network.feed.answer url delays.length).isBroken = true) :
    session.ConcludesAt url headers delays where
  way := hway
  le := hle
  taken := htaken
  final _ := Answer.isPassing_of_isBroken hbroken

/-- Every way can be gone on to a last attempt. -/
theorem Session.Way.exists_end {session : Session} (left : Nat) :
    ∀ {delays : List Float}, session.Way url headers delays →
      delays.length + left = session.client.policy.maxRetries.toNat →
      ∃ longer, session.ConcludesAt url headers longer ∨ session.BreaksAt url headers longer := by
  -- A way that has not come to its end goes on by one delay, and leaves one attempt less.
  induction left with
  | zero =>
    intro delays hway hmost
    cases htaken : (session.ready url headers delays).acquire.1 with
    | error error => exact ⟨delays, Or.inr (.token hway (by omega) htaken)⟩
    | ok _ => exact ⟨delays, Or.inl ⟨hway, by omega, htaken, by omega⟩⟩
  | succ left ih =>
    intro delays hway hmost
    have hmore : delays.length < session.client.policy.maxRetries.toNat := by omega
    cases htaken : (session.ready url headers delays).acquire.1 with
    | error error => exact ⟨delays, Or.inr (.token hway (Nat.le_of_lt hmore) htaken)⟩
    | ok _ =>
      cases hpassing : (session.network.feed.answer url delays.length).isPassing with
      | false =>
        exact ⟨delays, Or.inl ⟨hway, Nat.le_of_lt hmore, htaken, fun _ => hpassing⟩⟩
      | true =>
        have hretry : session.AtRetry url headers delays := ⟨hway, hmore, htaken, hpassing⟩
        cases hdelay : session.nextDelay url headers delays with
        | error error => exact ⟨delays, Or.inr (.untold hretry hdelay)⟩
        | ok delay =>
          cases hrefusal : session.network.machine.refusal? delay with
          | some refusal => exact ⟨delays, Or.inr (.refused hretry hdelay hrefusal)⟩
          | none =>
            apply ih (.retry hway htaken hpassing hdelay hrefusal)
            rw [List.length_append, List.length_singleton]
            omega

theorem Session.exists_end (session : Session) :
    ∃ delays, session.ConcludesAt url headers delays ∨ session.BreaksAt url headers delays :=
  Session.Way.exists_end url headers _ .start (Nat.zero_add _)

end Attempts

end AdvisoryFeed.Http
