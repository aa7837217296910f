import AdvisoryFeed.Proofs.Http.Attempts
import AdvisoryFeed.Proofs.Http.BreakerTrace

/-!
# The course of a request

A request that the breaker grants takes one answer of the feed after the other, as long as they are
passing and attempts are left, and the last answer that it takes decides alone what comes of it
(`Session.Course`). If the machine refuses a wait on its way (`Session.RefusesWait`), the request is
broken off without an outcome (`Session.BrokenOff`).

So a granted request has a course if no wait is refused, and is broken off if one is, while a request
that the breaker refuses leaves the session as it is (`Session.request_course`). For a course the
limit must be of numbers that doubles can hold, and the waits of times that the machine can count
(`Session.request_without_course`).
-/

namespace AdvisoryFeed.Http

open AdvisoryFeed.Decimal AdvisoryFeed.Time

/-! ## Delays that can be told -/

/-- Whether it can be told how long a server asks to wait does not depend on the time. -/
theorem isOk_retryAfter (headers : Headers) (now later : Instant) :
    (retryAfter headers now).isOk = (retryAfter headers later).isOk := by
  have hdate : ∀ text, (secondsUntilDate now text).isOk = (secondsUntilDate later text).isOk := by
    intro text
    rw [secondsUntilDate, secondsUntilDate]
    split
    · rfl
    · split <;> simp only [Except.isOk, Except.toBool]
  unfold retryAfter
  split
  · rfl
  · next value _ =>
    split
    · rfl
    · split
      · rfl
      · exact hdate value

/-- Before each of the first attempts the next delay can be told unless the server asks for one that
is beyond all numbers. -/
theorem Session.isOk_nextDelay (url : String) (headers : Option Headers) (session : Session)
    {delays : List Float} (h : delays.length < 1024) :
    (session.nextDelay url headers delays).isOk =
      (retryAfter (session.network.feed.answer url delays.length).headers
        session.network.now).isOk := by
  rw [isOk_retryAfter _ session.network.now (session.answered url headers delays).network.now,
    Session.nextDelay, RetryPolicy.backoff, RetryPolicy.delay, if_neg (Nat.not_le.2 h)]
  cases retryAfter (session.network.feed.answer url delays.length).headers
      (session.answered url headers delays).network.now with
  | error message => rfl
  | ok asked => rfl

/-! ## The course of a request -/

/-- The course of a request that the breaker has granted: it takes the answers up to the one of
number `last`, waits for the delays between them, and concludes with that answer. -/
structure Session.Course (granted : Session) (url : String) (headers : Option Headers)
    (last : Nat) (delays : List Float) (done : Except HttpError Response × Session) : Prop where
  /-- For each answer but the last one a token is taken, and the delay behind it is waited for. -/
  way : granted.Way url headers delays
  /-- The answers before the last one are passing, and it is the first that is not, or the one to
  the last attempt that the policy allows. -/
  isLast : IsLast (fun i => granted.network.feed.answer url i)
    granted.client.policy.maxRetries.toNat last
  /-- There is one delay between any two answers. -/
  length : delays.length = last
  lastTaken : (granted.ready url headers delays).acquire.1 = .ok ()
  /-- The last answer alone decides what comes of the request. -/
  outcome : done.1 = (granted.network.feed.answer url last).outcome url
  /-- Before each call a token is taken, and between two calls there is one delay. -/
  session : done.2 = (granted.performAll url headers (attempts delays)).conclude
    (granted.network.feed.answer url last)
  calls : done.2.network.calls = granted.network.calls ++
    List.replicate (last + 1) ⟨url, headers, granted.client.policy.timeout⟩
  sleeps : granted.client.limiter.limit? = none →
    done.2.network.sleeps = granted.network.sleeps ++ delays
  /-- One outcome is recorded, or none. -/
  breaker : done.2.client.breaker = (granted.network.feed.answer url last).record
    done.2.network.clock granted.client.breaker

/-- The machine refuses a wait of the request: the one for a token, when the delays are over and a
call has been sent before each, or the delay behind one call more. -/
inductive Session.RefusesWait (granted : Session) (url : String) (headers : Option Headers) :
    List Float → Nat → WaitError → Prop where
  | token {delays : List Float} {refusal : WaitError} : granted.Way url headers delays →
      delays.length ≤ granted.client.policy.maxRetries.toNat →
      (granted.ready url headers delays).acquire.1 = .error (.wait refusal) →
      RefusesWait granted url headers delays delays.length refusal
  | delay {delays : List Float} {delay : Float} {refusal : WaitError} :
      granted.AtRetry url headers delays → granted.nextDelay url headers delays = .ok delay →
      granted.network.machine.refusal? delay = some refusal →
      RefusesWait granted url headers delays (delays.length + 1) refusal

/-- A request that the breaker has granted is broken off after some delays and calls, because the
machine refuses to wait: that is its error, and no outcome is recorded. -/
structure Session.BrokenOff (granted : Session) (url : String) (headers : Option Headers)
    (delays : List Float) (sent : Nat) (refusal : WaitError)
    (done : Except HttpError Response × Session) : Prop where
  outcome : done.1 = .error (.wait refusal)
  /-- Nothing has been done since the request came to that wait, but that its delay was chosen. -/
  network : (sent = delays.length ∧ done.2.network = (granted.ready url headers delays).network) ∨
    (sent = delays.length + 1 ∧
      done.2.network = (granted.answered url headers delays).network.drawn)
  calls : done.2.network.calls = granted.network.calls ++
    List.replicate sent ⟨url, headers, granted.client.policy.timeout⟩
  sleeps : granted.client.limiter.limit? = none →
    done.2.network.sleeps = granted.network.sleeps ++ delays
  breaker : done.2.client.breaker = granted.client.breaker

/-- The session after the breaker has been asked for an attempt. -/
def Session.granted (session : Session) : Session :=
  { session with client := { session.client with
      breaker := (session.client.breaker.attempt session.network.clock).2 } }

/-- A request that the breaker refuses leaves the session as it is. -/
theorem Session.request_refused {session : Session} (url : String) (headers : Option Headers)
    (h : (session.client.breaker.attempt session.network.clock).1 = false) :
    session.request url headers = (.error (.circuitOpen session.client.source), session) := by
  rcases Breaker.attempt_cases session.client.breaker session.network.clock with
    ⟨-, hasked⟩ | ⟨opened, -, -, -, hasked⟩ | ⟨opened, -, -, hasked⟩
  · rw [hasked] at h
    exact absurd h.symm Bool.false_ne_true
  · rw [hasked] at h
    exact absurd h.symm Bool.false_ne_true
  · -- An attempt that is refused leaves the breaker as it was, and with it the session.
    rw [Session.request, hasked]
    rfl

section Requests

variable {session : Session} {url : String} {headers : Option Headers} {delays : List Float}

/-- A request that is granted comes to the attempt behind the delays of its way. -/
theorem Session.request_of_way
    (hgranted : (session.client.breaker.attempt session.network.clock).1 = true)
    (hmin : 0 ≤ session.client.policy.maxRetries) (hway : session.granted.Way url headers delays)
    (left : Nat) (hleft : delays.length + left = session.client.policy.maxRetries.toNat) :
    session.request url headers =
      (session.granted.ready url headers delays).tryRequest url headers (left + 1)
        delays.length := by
  have hmost : (session.client.policy.maxRetries + 1).toNat = delays.length + left + 1 := by omega
  rw [← hway.tryRequest, ← hmost, Session.request, hgranted, if_pos rfl]
  rfl

/-- A request has a course when it comes to an attempt that concludes it. -/
theorem Session.ConcludesAt.course (h : session.granted.ConcludesAt url headers delays)
    (hgranted : (session.client.breaker.attempt session.network.clock).1 = true)
    (hmin : 0 ≤ session.client.policy.maxRetries) :
    session.granted.Course url headers delays.length delays (session.request url headers) := by
  have hmost : delays.length ≤ session.client.policy.maxRetries.toNat := h.le
  obtain ⟨left, hleft⟩ := Nat.exists_eq_add_of_le hmost
  have hcomes := session.granted.comesTo_answered url headers delays
  have hrequest : session.request url headers =
      ((session.network.feed.answer url delays.length).outcome url,
        (session.granted.answered url headers delays).conclude
          (session.network.feed.answer url delays.length)) := by
    rw [Session.request_of_way hgranted hmin h.way left hleft.symm]
    apply Session.tryRequest_conclude h.taken
    intro hmore
    apply h.final
    change delays.length < session.client.policy.maxRetries.toNat
    omega
  refine ⟨h.way, ⟨h.le, h.way.passing, h.final⟩, rfl, h.taken, ?_, ?_, ?_, ?_, ?_⟩
  · rw [hrequest]
    rfl
  · rw [hrequest]
    rfl
  · rw [hrequest]
    exact hcomes.calls
  · intro hlimit
    rw [hrequest]
    exact hcomes.sleeps hlimit
  · have hbreaker : (session.granted.answered url headers delays).client.breaker =
        session.granted.client.breaker := by rw [hcomes.client]
    rw [hrequest, ← hbreaker]
    rfl

/-- What ends a course is what its last answer makes of it, so an error that is none of the exchange
is a failure of the connection. -/
theorem Session.Course.connection_of_other {granted : Session} {last : Nat}
    {done : Except HttpError Response × Session} {error : HttpError}
    (h : granted.Course url headers last delays done) (herror : done.1 = .error error)
    (hother : error.isTransport = false) : ∃ kind message, error = .connection kind message := by
  have houtcome := h.outcome.symm.trans herror
  have hbroken := Answer.isTransport_of_outcome houtcome
  rw [hother] at hbroken
  cases hanswer : granted.network.feed.answer url last with
  | failure kind message =>
    rw [hanswer] at houtcome
    exact ⟨kind, message, (Except.error.inj houtcome).symm⟩
  | response reply =>
    rw [hanswer] at hbroken
    exact absurd hbroken Bool.false_ne_true

/-- A request comes to the attempt behind which it is to be tried again. -/
theorem Session.AtRetry.request (h : session.granted.AtRetry url headers delays)
    (hgranted : (session.client.breaker.attempt session.network.clock).1 = true)
    (hmin : 0 ≤ session.client.policy.maxRetries) : ∃ left,
    session.request url headers =
      (session.granted.ready url headers delays).tryRequest url headers (left + 2)
        delays.length := by
  obtain ⟨left, hleft⟩ := Nat.exists_eq_add_of_lt h.more
  exact ⟨left, Session.request_of_way hgranted hmin h.way (left + 1) hleft.symm⟩

/-- A request is broken off where the machine refuses a wait. -/
theorem Session.RefusesWait.brokenOff {sent : Nat} {refusal : WaitError}
    (h : session.granted.RefusesWait url headers delays sent refusal)
    (hgranted : (session.client.breaker.attempt session.network.clock).1 = true)
    (hmin : 0 ≤ session.client.policy.maxRetries) :
    session.granted.BrokenOff url headers delays sent refusal (session.request url headers) := by
  cases h with
  | token hway hle hrefused =>
    obtain ⟨left, hleft⟩ := Nat.exists_eq_add_of_le hle
    have hcomes := (session.granted.comesTo_ready url headers delays).take
    rw [Session.request_of_way hgranted hmin hway left hleft.symm,
      Session.tryRequest_of_noToken hrefused]
    exact ⟨rfl, Or.inl ⟨rfl, (Session.acquire_error_cases hrefused).1⟩, hcomes.calls,
      hcomes.sleeps, by rw [hcomes.client]⟩
  | delay hretry hdelay hrefusal =>
    obtain ⟨left, hrequest⟩ := hretry.request hgranted hmin
    have hcomes := session.granted.comesTo_answered url headers delays
    rw [hrequest, Session.tryRequest_of_isPassing hretry.taken hretry.passing]
    simp only [hdelay, hrefusal]
    exact ⟨rfl, Or.inr ⟨rfl, rfl⟩, hcomes.calls, hcomes.sleeps, by rw [hcomes.client]⟩

/-- A request that is granted ends with an error that is none of the exchange exactly when one of its
attempts ends it without an outcome. -/
theorem Session.other_iff_breaksAt
    (hgranted : (session.client.breaker.attempt session.network.clock).1 = true)
    (hmin : 0 ≤ session.client.policy.maxRetries) :
    (∃ error, (session.request url headers).1 = .error error ∧ error.isTransport = false) ↔
      ∃ delays, session.granted.BreaksAt url headers delays := by
  constructor
  · rintro ⟨error, herror, hother⟩
    obtain ⟨delays, hconcludes | hbreaks⟩ := session.granted.exists_end url headers
    · -- The error comes of the last answer, so that answer is broken.
      have hcourse := hconcludes.course hgranted hmin
      have hbroken := Answer.isTransport_of_outcome (hcourse.outcome.symm.trans herror)
      rw [hother] at hbroken
      exact ⟨delays, .answer hconcludes.way hconcludes.le hconcludes.taken (by simpa using hbroken)⟩
    · exact ⟨delays, hbreaks⟩
  · rintro ⟨delays, hbreaks⟩
    cases hbreaks with
    | @token error hway hle hnone =>
      obtain ⟨left, hleft⟩ := Nat.exists_eq_add_of_le hle
      refine ⟨error, ?_, Session.isTransport_of_acquire_error hnone⟩
      rw [Session.request_of_way hgranted hmin hway left hleft.symm,
        Session.tryRequest_of_noToken hnone]
    | answer hway hle htaken hbroken =>
      have hconcludes := Session.concludesAt_of_isBroken url headers hway hle htaken hbroken
      obtain ⟨error, herror⟩ := Answer.exists_outcome_of_isBroken url hbroken
      refine ⟨error, (hconcludes.course hgranted hmin).outcome.trans herror, ?_⟩
      rw [Answer.isTransport_of_outcome herror, hbroken]
      rfl
    | untold hretry hnone =>
      obtain ⟨message, rfl⟩ := RetryPolicy.overflow_of_backoff hnone
      obtain ⟨left, hrequest⟩ := hretry.request hgranted hmin
      refine ⟨.overflow message, ?_, rfl⟩
      rw [hrequest, Session.tryRequest_of_isPassing hretry.taken hretry.passing]
      simp only [hnone]
    | refused hretry hdelay hrefusal =>
      have hbroken := (Session.RefusesWait.delay hretry hdelay hrefusal).brokenOff hgranted hmin
      exact ⟨_, hbroken.outcome, rfl⟩

/-- A request that the breaker refuses fails and leaves the session as it is. One that it grants has
a course, whatever the answers are, as long as the machine refuses none of its waits; where it
refuses one, the request is broken off. -/
theorem Session.request_course (session : Session) (url : String) (headers : Option Headers)
    (hmin : 0 ≤ session.client.policy.maxRetries) (hmax : session.client.policy.maxRetries ≤ 1000)
    (hfinite : session.client.limiter.isFinite = true)
    (hheaders : ∀ i < session.client.policy.maxRetries.toNat,
      (retryAfter (session.network.feed.answer url i).headers session.network.now).isOk = true) :
    ((session.client.breaker.attempt session.network.clock).1 = false →
      session.request url headers = (.error (.circuitOpen session.client.source), session)) ∧
    ((session.client.breaker.attempt session.network.clock).1 = true →
      ((∀ delays sent refusal, ¬ session.granted.RefusesWait url headers delays sent refusal) →
        ∃ last delays,
          session.granted.Course url headers last delays (session.request url headers)) ∧
      ∀ delays sent refusal, session.granted.RefusesWait url headers delays sent refusal →
        session.granted.BrokenOff url headers delays sent refusal
          (session.request url headers)) := by
  refine ⟨Session.request_refused url headers, ?_⟩
  intro hgranted
  refine ⟨?_, fun delays sent refusal hrefused => hrefused.brokenOff hgranted hmin⟩
  intro hwaits
  obtain ⟨delays, hconcludes | hbreaks⟩ := session.granted.exists_end url headers
  · exact ⟨_, delays, hconcludes.course hgranted hmin⟩
  · cases hbreaks with
    | @token error hway hle herror =>
      -- The limit is of numbers, so only the machine keeps a token from being taken.
      have hlimit := (session.granted.comesTo_ready url headers delays).limit
      rcases (Session.acquire_error_cases herror).2 with ⟨hinfinite, -⟩ | ⟨refusal, rfl⟩
      · rw [Limiter.isFinite, hlimit] at hinfinite
        exact absurd (hinfinite.symm.trans hfinite) Bool.false_ne_true
      · exact absurd (.token hway hle herror) (hwaits delays delays.length refusal)
    | answer hway hle htaken hbroken =>
      have hconcludes := Session.concludesAt_of_isBroken url headers hway hle htaken hbroken
      exact ⟨_, delays, hconcludes.course hgranted hmin⟩
    | untold hretry herror =>
      -- The attempts are few, and what the server asks for can be told.
      have hmore : delays.length < session.client.policy.maxRetries.toNat := hretry.more
      have htold := session.granted.isOk_nextDelay url headers
        (show delays.length < 1024 by omega)
      rw [herror] at htold
      exact absurd (htold.trans (hheaders _ hmore)) Bool.false_ne_true
    | refused hretry hdelay hrefusal =>
      exact absurd (.delay hretry hdelay hrefusal) (hwaits delays (delays.length + 1) _)

end Requests

/-! ## Requests with and without a course -/

/-- A session with some answers for a URL. -/
def answeringSession (most : Int) (limiter : Limiter) (breaker : Breaker) (answers : List Answer) :
    Session where
  client :=
    { source := "oracle"
      userAgent := defaultUserAgent
      policy := { RetryPolicy.default with maxRetries := most }
      limiter := limiter
      breaker := breaker }
  network :=
    { feed := [("u", answers)]
      clock := 1000.0
      now := ⟨2024, 1, 1, 0, 0, 0, 0⟩
      machine := Machine.system
      jitter := fun _ => 0.0
      calls := []
      sleeps := [] }

/-- Two passing answers come before the document. The breaker is open and its probe is due, and the
limiter has one token. -/
def retriedSession : Session :=
  answeringSession 2 (Limiter.full (some 60) (some 1) 1000.0) ⟨2, 900.0, 2, some 0.0, false⟩
    [.response ⟨503, [("Retry-After", "7")], []⟩, .failure .timeout "read timed out",
      .response ⟨200, [], [120]⟩]

theorem Session.request_course_retried :
    (0 ≤ retriedSession.client.policy.maxRetries ∧
      retriedSession.client.policy.maxRetries ≤ 1000 ∧
      retriedSession.client.limiter.isFinite = true ∧
      (∀ i < retriedSession.client.policy.maxRetries.toNat,
        (retryAfter (retriedSession.network.feed.answer "u" i).headers
          retriedSession.network.now).isOk = true)) ∧
    (retriedSession.client.breaker.attempt retriedSession.network.clock).1 = true ∧
    (retriedSession.request "u" none).1 = .ok ⟨200, [], [120]⟩ ∧
    ∃ last delays, retriedSession.granted.Course "u" none last delays
      (retriedSession.request "u" none) := by
  have hmin : 0 ≤ retriedSession.client.policy.maxRetries := by decide
  have hmax : retriedSession.client.policy.maxRetries ≤ 1000 := by decide
  have hfinite : retriedSession.client.limiter.isFinite = true := by decide +kernel
  have hheaders : ∀ i < retriedSession.client.policy.maxRetries.toNat,
      (retryAfter (retriedSession.network.feed.answer "u" i).headers
        retriedSession.network.now).isOk = true := by decide +kernel
  have hgranted : (retriedSession.client.breaker.attempt retriedSession.network.clock).1 =
      true := by decide +kernel
  have hdone : (retriedSession.request "u" none).1 = .ok ⟨200, [], [120]⟩ := by decide +kernel
  obtain ⟨hcourse, hbroken⟩ :=
    (retriedSession.request_course "u" none hmin hmax hfinite hheaders).2 hgranted
  refine ⟨⟨hmin, hmax, hfinite, hheaders⟩, hgranted, hdone, hcourse ?_⟩
  -- The request has a response, so the machine has refused none of its waits.
  intro delays sent refusal hrefused
  rw [(hbroken delays sent refusal hrefused).outcome] at hdone
  exact absurd hdone (by simp)

/-- The policy allows an attempt and not too many, the limit is positive if there is one, what the
server asks for can be told, and the breaker grants the request. -/
structure Session.Willing (session : Session) (url : String) : Prop where
  min : 0 ≤ session.client.policy.maxRetries
  max : session.client.policy.maxRetries ≤ 1000
  limit : (session.client.limiter.rate = none ∧ session.client.limiter.burst = none) ∨
    ∃ rate burst, session.client.limiter.rate = some rate ∧ 0 < rate ∧
      session.client.limiter.burst = some burst ∧ 0 < burst
  headers : ∀ i < session.client.policy.maxRetries.toNat,
    (retryAfter (session.network.feed.answer url i).headers session.network.now).isOk = true
  granted : (session.client.breaker.attempt session.network.clock).1 = true

/-- A limit of more tokens a minute than a double can hold. -/
def hugeRateSession : Session :=
  answeringSession 0 (Limiter.full (some (Int.pow 10 400)) (some 1) 1000.0)
    (Breaker.fresh defaultThreshold defaultOpenSeconds) [.response ⟨200, [], [120]⟩]

/-- A bucket that lacks so many tokens that the machine cannot count the time until it has one. -/
def emptiedSession : Session :=
  answeringSession 0 ⟨some 1, some 1, -1e300, 1000.0⟩
    (Breaker.fresh defaultThreshold defaultOpenSeconds) [.response ⟨200, [], [120]⟩]

/-- A server that is to be asked again after more seconds than the machine can count, and that then
has the document. -/
def longWaitSession : Session :=
  answeringSession 3 (Limiter.full none none 1000.0)
    (Breaker.fresh defaultThreshold defaultOpenSeconds)
    [.response ⟨503, [("Retry-After", "99999999999")], []⟩, .response ⟨200, [], [120]⟩]

/-- Where a limit is beyond all doubles, or the machine cannot count a wait, a granted request has
no course: it ends with another error than its answers have. -/
theorem Session.request_without_course :
    (hugeRateSession.Willing "u" ∧
      (hugeRateSession.request "u" none).1 = .error (.overflow tooLargeForDouble) ∧
      ¬ ∃ last delays, hugeRateSession.granted.Course "u" none last delays
        (hugeRateSession.request "u" none)) ∧
    (emptiedSession.Willing "u" ∧
      (emptiedSession.request "u" none).1 = .error (.wait .tooLarge) ∧
      ¬ ∃ last delays, emptiedSession.granted.Course "u" none last delays
        (emptiedSession.request "u" none)) ∧
    longWaitSession.Willing "u" ∧
      (longWaitSession.request "u" none).1 = .error (.wait .tooLarge) ∧
      ¬ ∃ last delays, longWaitSession.granted.Course "u" none last delays
        (longWaitSession.request "u" none) := by
  have hnone : ∀ {session : Session} {error : HttpError},
      (session.request "u" none).1 = .error error → error.isTransport = false →
      (∀ kind message, error ≠ .connection kind message) →
      ¬ ∃ last delays, session.granted.Course "u" none last delays
        (session.request "u" none) := by
    rintro session error herror hother hne ⟨last, delays, hcourse⟩
    obtain ⟨kind, message, hconnection⟩ := hcourse.connection_of_other herror hother
    exact hne kind message hconnection
  have hhuge : (hugeRateSession.request "u" none).1 = .error (.overflow tooLargeForDouble) := by
    decide +kernel
  have hemptied : (emptiedSession.request "u" none).1 = .error (.wait .tooLarge) := by
    decide +kernel
  have hlong : (longWaitSession.request "u" none).1 = .error (.wait .tooLarge) := by
    decide +kernel
  refine ⟨⟨?_, hhuge, hnone hhuge rfl (by simp)⟩, ⟨?_, hemptied, hnone hemptied rfl (by simp)⟩,
    ?_, hlong, hnone hlong rfl (by simp)⟩
  · exact ⟨by decide, by decide,
      Or.inr ⟨Int.pow 10 400, 1, rfl, Int.pow_pos (by decide), rfl, by decide⟩,
      by decide +kernel, by decide +kernel⟩
  · exact ⟨by decide, by decide, Or.inr ⟨1, 1, rfl, by decide, rfl, by decide⟩, by decide +kernel,
      by decide +kernel⟩
  · exact ⟨by decide, by decide, Or.inl ⟨rfl, rfl⟩, by decide +kernel, by decide +kernel⟩

end AdvisoryFeed.Http
