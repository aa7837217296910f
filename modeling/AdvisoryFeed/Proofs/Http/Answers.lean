import AdvisoryFeed.Proofs.Http.Requests

/-!
# Answers

A request takes the answers of the feed one by one. They come as the feed has them
(`Feed.answer_of_lookup`), so a request may meet any of them. After a passing answer the request may
be tried again (`Answer.isPassing`); any other is its last one, and so is a passing answer to the
last attempt. What the last answer makes of the request is `Answer.outcome`, and what it makes of
the breaker `Answer.record`; an answer that is broken leaves an error that is none of the exchange
(`Answer.isTransport_of_outcome`).
-/

namespace AdvisoryFeed.Http

/-! ## Streams of answers -/

/-- The answers of a feed for a URL that is asked for again and again, counted from zero. -/
def Feed.answer (url : String) : Nat → Feed → Answer
  | 0, feed => (feed.ask url).1
  | n + 1, feed => answer url n (feed.ask url).2

/-- The answers that a feed has for a URL come in their order. -/
theorem Feed.answer_of_lookup {url : String} (answers : List Answer) :
    ∀ {feed : Feed}, feed.lookup url = some answers →
      ∀ i (hi : i < answers.length), Feed.answer url i feed = answers[i] := by
  -- The feed varies in the induction, because asking takes an answer away from it.
  induction answers with
  | nil =>
    intro feed _ i hi
    exact absurd hi (Nat.not_lt_zero i)
  | cons answer answers ih =>
    intro feed hlookup i hi
    cases answers with
    | nil =>
      -- The last answer stays in the feed.
      obtain rfl : i = 0 := by simpa using hi
      rw [Feed.answer, Feed.ask, hlookup]
      rfl
    | cons next rest =>
      have hask : feed.ask url = (answer, putPair url (next :: rest) feed) := by
        rw [Feed.ask, hlookup]
      cases i with
      | zero =>
        rw [Feed.answer, hask]
        rfl
      | succ i =>
        rw [Feed.answer, hask]
        apply ih
        rw [lookup_putPair, if_pos rfl]

/-! ## What an answer makes of a request -/

/-- The answer is a failure of the exchange, or a status of a server that cannot answer for now:
the request may be tried again. -/
def Answer.isPassing : Answer → Bool
  | .response reply => retryableStatuses.contains reply.status
  | .failure kind _ => kind.isTransient

/-- The answer is a failure that is none of the exchange. -/
def Answer.isBroken : Answer → Bool
  | .response _ => false
  | .failure kind _ => !kind.isTransient

/-- The fields of the answer, of which a failure has none. -/
def Answer.headers : Answer → Headers
  | .response reply => reply.headers
  | .failure _ _ => []

/-- The server has done what it was asked for. -/
def Response.isSuccess (response : Response) : Bool :=
  200 ≤ response.status && response.status < 300

/-- What a request gives when the answer is the last one that it takes. -/
def Answer.outcome (url : String) : Answer → Except HttpError Response
  | .response reply =>
    if reply.isSuccess then .ok reply
    else if retryableStatuses.contains reply.status then .error (.unavailable reply.status)
    else .error (.refused reply.status url)
  | .failure kind message => .error (.connection kind message)

/-- The breaker after the last answer: a success is recorded, or a failure, or nothing when what
went wrong is neither. -/
def Answer.record (now : Float) (breaker : Breaker) : Answer → Breaker
  | .response reply => if reply.isSuccess then breaker.succeed else breaker.fail now
  | .failure kind _ => if kind.isTransient then breaker.fail now else breaker

/-- A status after which a request is tried again is none of a success. -/
theorem Response.isSuccess_of_retryable {response : Response}
    (h : retryableStatuses.contains response.status = true) : response.isSuccess = false := by
  have hbounds : response.status = 429 ∨ 500 ≤ response.status := by
    simp only [retryableStatuses, List.contains_eq_mem, List.mem_cons, List.not_mem_nil, or_false,
      decide_eq_true_eq] at h
    omega
  rw [Response.isSuccess, Bool.and_eq_false_iff]
  right
  rw [decide_eq_false_iff_not]
  omega

/-- After a passing answer the request is tried again, and if it is not, it has failed. -/
theorem Answer.verdict_of_isPassing {answer : Answer} (url : String)
    (h : answer.isPassing = true) :
    ∃ error, answer.verdict url = .retry error answer.headers ∧
      answer.outcome url = .error error ∧
      ∀ now breaker, answer.record now breaker = Breaker.fail breaker now := by
  cases answer with
  | failure kind message =>
    have htransient : kind.isTransient = true := h
    refine ⟨.connection kind message, ?_, rfl, ?_⟩
    · rw [Answer.verdict, if_pos htransient]
      rfl
    · intro now breaker
      rw [Answer.record, if_pos htransient]
  | response reply =>
    have hretryable : retryableStatuses.contains reply.status = true := h
    have hsuccess := Response.isSuccess_of_retryable hretryable
    refine ⟨.unavailable reply.status, ?_, ?_, ?_⟩
    · rw [Answer.verdict, if_pos hretryable]
      rfl
    · rw [Answer.outcome, hsuccess, if_neg Bool.false_ne_true, if_pos hretryable]
    · intro now breaker
      rw [Answer.record, hsuccess, if_neg Bool.false_ne_true]

/-- Any other answer is the last one: a success, a refusal, or something that is no outcome. -/
theorem Answer.verdict_of_not_isPassing {answer : Answer} (url : String)
    (h : answer.isPassing = false) :
    (∃ response, answer.verdict url = .success response ∧ answer.outcome url = .ok response ∧
      ∀ now breaker, answer.record now breaker = breaker.succeed) ∨
    (∃ error, answer.verdict url = .final error ∧ answer.outcome url = .error error ∧
      ∀ now breaker, answer.record now breaker = Breaker.fail breaker now) ∨
    ∃ error, answer.verdict url = .broken error ∧ answer.outcome url = .error error ∧
      ∀ now breaker, answer.record now breaker = breaker := by
  cases answer with
  | failure kind message =>
    have htransient : ¬ kind.isTransient = true := by
      intro htransient
      exact Bool.false_ne_true (h.symm.trans htransient)
    refine Or.inr (Or.inr ⟨.connection kind message, ?_, rfl, ?_⟩)
    · rw [Answer.verdict, if_neg htransient]
    · intro now breaker
      rw [Answer.record, if_neg htransient]
  | response reply =>
    have hretryable : ¬ retryableStatuses.contains reply.status = true := by
      intro hretryable
      exact Bool.false_ne_true (h.symm.trans hretryable)
    by_cases hsuccess : reply.isSuccess = true
    · refine Or.inl ⟨reply, ?_, ?_, ?_⟩
      · rw [Answer.verdict, if_neg hretryable]
        exact if_pos hsuccess
      · rw [Answer.outcome, if_pos hsuccess]
      · intro now breaker
        rw [Answer.record, if_pos hsuccess]
    · refine Or.inr (Or.inl ⟨.refused reply.status url, ?_, ?_, ?_⟩)
      · rw [Answer.verdict, if_neg hretryable]
        exact if_neg hsuccess
      · rw [Answer.outcome, if_neg hsuccess, if_neg hretryable]
      · intro now breaker
        rw [Answer.record, if_neg hsuccess]

/-- What comes of a last answer is an error that is none of the exchange exactly when the answer is
broken. -/
theorem Answer.isTransport_of_outcome {url : String} {answer : Answer} {error : HttpError}
    (h : answer.outcome url = .error error) : error.isTransport = !answer.isBroken := by
  cases answer with
  | failure kind message =>
    obtain rfl := Except.error.inj h
    exact (Bool.not_not kind.isTransient).symm
  | response reply =>
    rw [Answer.outcome] at h
    split at h
    · exact absurd h (by simp)
    · split at h
      · obtain rfl := Except.error.inj h
        rfl
      · obtain rfl := Except.error.inj h
        rfl

theorem Answer.exists_outcome_of_isBroken {answer : Answer} (url : String)
    (h : answer.isBroken = true) : ∃ error, answer.outcome url = .error error := by
  cases answer with
  | failure kind message => exact ⟨.connection kind message, rfl⟩
  | response reply => exact absurd h Bool.false_ne_true

theorem Answer.isPassing_of_isBroken {answer : Answer} (h : answer.isBroken = true) :
    answer.isPassing = false := by
  cases answer with
  | failure kind message =>
    rw [Answer.isBroken, Bool.not_eq_true'] at h
    exact h
  | response reply => exact absurd h Bool.false_ne_true

/-- The answers after which a request goes on end with the one of number `last`: it is the first one
that is not passing, or the one to the last attempt if all before it are passing. -/
structure IsLast (answers : Nat → Answer) (most last : Nat) : Prop where
  le : last ≤ most
  before : ∀ i < last, (answers i).isPassing = true
  final : last < most → (answers last).isPassing = false

end AdvisoryFeed.Http
