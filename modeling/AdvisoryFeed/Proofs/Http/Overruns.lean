import AdvisoryFeed.Proofs.Http.Retries

/-!
# Requests that overrun

A request fails with an error of the exchange or of the breaker, or with another one. When there is
no rate limit, and the feed has responses and failures of the exchange only (`Session.Ordinary`),
one way is left to another error: after a passing answer, while attempts are left, the server asks
for a delay that is beyond all numbers, or the machine does not wait for the delay
(`Session.Overruns`). The end of the way of the request decides this
(`Session.Ordinary.request_other_iff`). An ordinary session stays one, whatever is asked for
(`Session.Ordinary.askAll`).
-/

namespace AdvisoryFeed.Http

/-! ## Answers of the exchange -/

/-- A response, or a failure of the exchange itself. -/
def Answer.isExchange : Answer → Bool
  | .response _ => true
  | .failure kind _ => kind.isTransient

/-- All answers of the feed are of the exchange. -/
def Feed.IsExchange (feed : Feed) : Prop :=
  ∀ url answers, feed.lookup url = some answers → ∀ answer ∈ answers, answer.isExchange = true

section Feeds

variable {feed : Feed}

theorem Feed.isExchange_of_forall
    (h : ∀ entry ∈ feed, ∀ answer ∈ entry.2, Answer.isExchange answer = true) :
    feed.IsExchange := by
  intro url answers hlookup
  obtain ⟨before, after, rfl, -⟩ := List.lookup_eq_some_iff.1 hlookup
  exact h (url, answers) (by simp)

theorem Feed.IsExchange.ask (h : feed.IsExchange) (url : String) : (feed.ask url).2.IsExchange := by
  rw [Feed.ask]
  split
  · next answer next rest hlookup =>
    intro other answers hanswers
    rw [lookup_putPair] at hanswers
    split at hanswers
    · obtain rfl := Option.some.inj hanswers
      intro later hlater
      exact h url _ hlookup later (List.mem_cons_of_mem answer hlater)
    · exact h other answers hanswers
  · exact h
  · exact h

/-- All answers that are taken are of the exchange. -/
theorem Feed.IsExchange.answer (h : feed.IsExchange) (url : String) (n : Nat) :
    (feed.answer url n).isExchange = true := by
  induction n generalizing feed with
  | zero =>
    rw [Feed.answer]
    rcases feed.ask_cases url with hnot | ⟨answers, hlookup, hmem⟩
    · rw [hnot]
      rfl
    · exact h url answers hlookup _ hmem
  | succ n ih => exact ih (h.ask url)

end Feeds

/-- An answer of the exchange is not broken. -/
theorem Answer.isBroken_of_isExchange {answer : Answer} (h : answer.isExchange = true) :
    answer.isBroken = false := by
  cases answer with
  | response reply => rfl
  | failure kind message =>
    rw [Answer.isBroken, Bool.not_eq_false']
    exact h

/-! ## Attempts -/

section Attempts

variable (url : String) (headers : Option Headers)

/-- Attempts keep to their policy and to their limit, and take no answers but those of the feed. -/
theorem Session.tryRequest_keeps (left : Nat) :
    ∀ (attempt : Nat) (session : Session), session.network.feed.IsExchange →
      let done := (session.tryRequest url headers left attempt).2
      done.client.policy = session.client.policy ∧
        done.client.limiter.limit? = session.client.limiter.limit? ∧
        done.network.feed.IsExchange := by
  induction left with
  | zero =>
    intro attempt session hfeed
    exact ⟨rfl, rfl, hfeed⟩
  | succ left ih =>
    intro attempt session hfeed
    obtain ⟨later, htries, hcases⟩ := session.tryRequest_cases url headers left attempt
    -- The attempt itself keeps to all three, and what it records is no matter of theirs.
    have hkeeps : later.client.policy = session.client.policy ∧
        later.client.limiter.limit? = session.client.limiter.limit? ∧
        later.network.feed.IsExchange := by
      refine ⟨by rw [htries.client], htries.limit, ?_⟩
      rcases htries.feed with hsame | hasked
      · rw [hsame]
        exact hfeed
      · rw [hasked]
        exact hfeed.ask url
    dsimp only
    rcases hcases with ⟨response, -, htried⟩ | ⟨error, -, htried⟩ | ⟨error, -, htried⟩ |
      ⟨-, htried⟩
    · rw [htried]
      exact hkeeps
    · rw [htried]
      exact hkeeps
    · rw [htried]
      exact hkeeps
    · obtain ⟨hpolicy, hlimit, hlater⟩ := ih (attempt + 1) later hkeeps.2.2
      rw [htried]
      exact ⟨hpolicy.trans hkeeps.1, hlimit.trans hkeeps.2.1, hlater⟩

end Attempts

/-! ## Ordinary sessions -/

/-- There is no rate limit, there are no more attempts than there are delays for, and the feed has
answers of the exchange only. -/
structure Session.Ordinary (session : Session) : Prop where
  retries : 0 ≤ session.client.policy.maxRetries
  fewRetries : session.client.policy.maxRetries ≤ 1024
  unlimited : session.client.limiter.limit? = none
  feed : session.network.feed.IsExchange

/-- The breaker grants the request, and after a passing answer, while attempts are left, the server
asks for a delay that is beyond all numbers, or the machine does not wait for the delay. -/
def Session.Overruns (session : Session) (url : String) : Prop :=
  (session.client.breaker.attempt session.network.clock).1 = true ∧
    ∃ delays, session.granted.AtRetry url none delays ∧
      ((retryAfter (session.network.feed.answer url delays.length).headers
          session.network.now).isOk = false ∨
        ∃ delay refusal, session.granted.nextDelay url none delays = .ok delay ∧
          session.network.machine.refusal? delay = some refusal)

/-- Where nothing is limited, there is always a token. -/
theorem Session.acquire_of_unlimited {session : Session}
    (h : session.client.limiter.limit? = none) : session.acquire = (.ok (), session) := by
  rw [Session.acquire, h]

section Ordinary

variable {session : Session}

/-- A request fails with an error that is neither of the exchange nor of the breaker exactly when it
overruns. -/
theorem Session.Ordinary.request_other_iff (h : session.Ordinary) (url : String) :
    (∃ error, (session.request url none).1 = .error error ∧ error.isTransport = false) ↔
      session.Overruns url := by
  rw [Session.Overruns]
  cases hgranted : (session.client.breaker.attempt session.network.clock).1 with
  | false =>
    refine iff_of_false ?_ fun hoverruns => Bool.false_ne_true hoverruns.1
    rintro ⟨error, herror, hother⟩
    rw [Session.request_refused url none hgranted] at herror
    obtain rfl := Except.error.inj herror
    exact Bool.false_ne_true hother.symm
  | true =>
    have hfew := h.fewRetries
    have htold : ∀ {delays}, session.granted.AtRetry url none delays →
        (session.granted.nextDelay url none delays).isOk =
          (retryAfter (session.network.feed.answer url delays.length).headers
            session.network.now).isOk := by
      intro delays hretry
      have hmore : delays.length < session.client.policy.maxRetries.toNat := hretry.more
      exact session.granted.isOk_nextDelay url none (by omega)
    rw [Session.other_iff_breaksAt hgranted h.retries, and_iff_right rfl]
    apply exists_congr
    intro delays
    constructor
    · intro hbreaks
      cases hbreaks with
      | token hway hle hnone =>
        have hlimit := (session.granted.comesTo_ready url none delays).limit
        rw [Session.acquire_of_unlimited (hlimit.trans h.unlimited)] at hnone
        exact absurd hnone (by simp)
      | answer hway hle htaken hbroken =>
        have hnot := Answer.isBroken_of_isExchange (h.feed.answer url delays.length)
        exact absurd (hnot.symm.trans hbroken) Bool.false_ne_true
      | untold hretry hnone =>
        refine ⟨hretry, Or.inl ?_⟩
        rw [← htold hretry, hnone]
        rfl
      | refused hretry hdelay hrefusal => exact ⟨hretry, Or.inr ⟨_, _, hdelay, hrefusal⟩⟩
    · rintro ⟨hretry, hbeyond | ⟨delay, refusal, hdelay, hrefusal⟩⟩
      · rw [← htold hretry] at hbeyond
        cases hdelay : session.granted.nextDelay url none delays with
        | ok delay =>
          rw [hdelay] at hbeyond
          exact absurd hbeyond.symm Bool.false_ne_true
        | error error => exact .untold hretry hdelay
      · exact .refused hretry hdelay hrefusal

theorem Session.Ordinary.request (h : session.Ordinary) (url : String)
    (headers : Option Headers) : (session.request url headers).2.Ordinary := by
  rw [Session.request]
  dsimp only
  split
  · obtain ⟨hpolicy, hlimit, hfeed⟩ := Session.tryRequest_keeps url headers
      (session.client.policy.maxRetries + 1).toNat 0 session.granted h.feed
    refine ⟨?_, ?_, hlimit.trans h.unlimited, hfeed⟩
    · exact (congrArg RetryPolicy.maxRetries hpolicy).symm ▸ h.retries
    · exact (congrArg RetryPolicy.maxRetries hpolicy).symm ▸ h.fewRetries
  · exact ⟨h.retries, h.fewRetries, h.unlimited, h.feed⟩

/-- Whatever an ordinary session is asked for, it stays ordinary. -/
theorem Session.Ordinary.askAll (urls : List String) :
    ∀ {session : Session}, session.Ordinary → (session.askAll urls).Ordinary := by
  induction urls with
  | nil =>
    intro session h
    exact h
  | cons url urls ih =>
    intro session h
    exact ih (h.request url none)

end Ordinary

end AdvisoryFeed.Http
