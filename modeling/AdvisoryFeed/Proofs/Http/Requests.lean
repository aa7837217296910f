import AdvisoryFeed.Http.Client
import Mathlib.Data.List.Forall2

/-!
# Requests on the network

Asking a client for a URL sends calls to this URL only (`Session.request_calls`), and a response
that it succeeds with is one that the feed has for the URL (`Session.request_ok_serves`). Both rest
on what one attempt leaves of the session (`Session.Tried`), and on what it comes to
(`Session.tryRequest_cases`). `Session.askAll` is the session after a client has been asked for URLs
one after the other; its calls fall into one block for each URL (`Session.calls_askAll`).
-/

namespace AdvisoryFeed.Http

/-! ## Feeds -/

/-- The feed has the response among its answers for the URL. -/
def Feed.Serves (feed : Feed) (url : String) (response : Response) : Prop :=
  ∃ answers, feed.lookup url = some answers ∧ Answer.response response ∈ answers

/-- An answer is one of the feed, unless the feed has none for the URL. -/
theorem Feed.ask_cases (feed : Feed) (url : String) :
    (feed.ask url).1 = Answer.notFound ∨
      ∃ answers, feed.lookup url = some answers ∧ (feed.ask url).1 ∈ answers := by
  rw [Feed.ask]
  split
  · next answer next rest hlookup =>
    exact Or.inr ⟨_, hlookup, List.mem_cons_self⟩
  · next answer hlookup =>
    exact Or.inr ⟨_, hlookup, List.mem_cons_self⟩
  · exact Or.inl rfl

/-- Asking adds no response to the feed. -/
theorem Feed.serves_of_serves_ask {feed : Feed} {url : String} {response : Response}
    (h : (feed.ask url).2.Serves url response) : feed.Serves url response := by
  obtain ⟨answers, hanswers, hmem⟩ := h
  rw [Feed.ask] at hanswers
  split at hanswers
  · next answer next rest hlookup =>
    rw [lookup_putPair, if_pos rfl] at hanswers
    obtain rfl := Option.some.inj hanswers
    exact ⟨_, hlookup, List.mem_cons_of_mem answer hmem⟩
  · exact ⟨answers, hanswers, hmem⟩
  · exact ⟨answers, hanswers, hmem⟩

/-- Only a response that succeeds counts as a success. -/
theorem Answer.eq_of_verdict_success {url : String} {answer : Answer} {response : Response}
    (h : answer.verdict url = .success response) :
    answer = .response response ∧ answer ≠ Answer.notFound := by
  cases answer with
  | failure kind message =>
    simp only [Answer.verdict] at h
    split at h <;> exact absurd h (by simp)
  | response reply =>
    -- What a feed answers for a URL that it does not have is refused, so it is no success.
    have hnot : Answer.verdict url Answer.notFound = .final (.refused 404 url) := rfl
    have hne : Answer.response reply ≠ Answer.notFound := by
      intro heq
      rw [heq, hnot] at h
      exact absurd h (by simp)
    simp only [Answer.verdict] at h
    split at h
    · exact absurd h (by simp)
    · split at h
      · obtain rfl := Verdict.success.inj h
        exact ⟨rfl, hne⟩
      · exact absurd h (by simp)

theorem Feed.serves_of_verdict {feed : Feed} {url : String} {response : Response}
    (h : (feed.ask url).1.verdict url = .success response) : feed.Serves url response := by
  obtain ⟨heq, hne⟩ := Answer.eq_of_verdict_success h
  rcases feed.ask_cases url with hnot | ⟨answers, hlookup, hmem⟩
  · exact absurd hnot hne
  · exact ⟨answers, hlookup, heq ▸ hmem⟩

/-! ## Attempts -/

section Attempts

variable (url : String) (headers : Option Headers)

/-- A machine waits, or it says why it does not. -/
theorem Network.sleep_cases (network : Network) (seconds : Float) :
    (∃ refusal, network.machine.refusal? seconds = some refusal ∧
        network.sleep seconds = .error (.wait refusal)) ∨
      (network.machine.refusal? seconds = none ∧
        network.sleep seconds = .ok (network.wait seconds)) := by
  rw [Network.sleep]
  cases hrefusal : network.machine.refusal? seconds with
  | some refusal => exact Or.inl ⟨refusal, rfl, rfl⟩
  | none => exact Or.inr ⟨rfl, rfl⟩

/-- What taking a token comes to: there is one, or it is waited for, or the machine does not wait,
or the limit is beyond all numbers. Of the client only the limiter changes, and not its limit. -/
theorem Session.acquire_cases (session : Session) :
    ∃ limiter : Limiter, limiter.limit? = session.client.limiter.limit? ∧
      let client := { session.client with limiter := limiter }
      (session.acquire = (.ok (), ⟨client, session.network⟩) ∨
        (∃ seconds, session.acquire = (.ok (), ⟨client, session.network.wait seconds⟩)) ∨
        (∃ seconds refusal, session.network.machine.refusal? seconds = some refusal ∧
          session.acquire = (.error (.wait refusal), ⟨client, session.network⟩)) ∨
        (session.client.limiter.isFinite = false ∧
          session.acquire = (.error (.overflow tooLargeForDouble), ⟨client, session.network⟩))) := by
  cases hlimit : session.client.limiter.limit? with
  | none =>
    refine ⟨session.client.limiter, hlimit, Or.inl ?_⟩
    simp only [Session.acquire, hlimit]
  | some limit =>
    cases hfinite : session.client.limiter.isFinite with
    | false =>
      refine ⟨session.client.limiter, hlimit, Or.inr (Or.inr (Or.inr ⟨rfl, ?_⟩))⟩
      simp [Session.acquire, hlimit, hfinite]
    | true =>
      cases hshort : (session.refill limit.1 limit.2).client.limiter.shortage? limit.1 with
      | none =>
        refine ⟨(session.refill limit.1 limit.2).take.client.limiter, hlimit, Or.inl ?_⟩
        simp only [Session.acquire, hlimit, hfinite, if_true, hshort]
        rfl
      | some seconds =>
        rcases (session.refill limit.1 limit.2).network.sleep_cases seconds with
          ⟨refusal, hrefusal, hsleep⟩ | ⟨-, hsleep⟩
        · refine ⟨(session.refill limit.1 limit.2).client.limiter, hlimit,
            Or.inr (Or.inr (Or.inl ⟨seconds, refusal, hrefusal, ?_⟩))⟩
          simp only [Session.acquire, hlimit, hfinite, if_true, hshort, hsleep]
          rfl
        · let waited : Session :=
            ⟨(session.refill limit.1 limit.2).client, session.network.wait seconds⟩
          refine ⟨(waited.refill limit.1 limit.2).take.client.limiter, hlimit,
            Or.inr (Or.inl ⟨seconds, ?_⟩)⟩
          simp only [Session.acquire, hlimit, hfinite, if_true, hshort, hsleep]
          rfl

/-- Taking a token changes the limiter, but not its limit, and the network only by waiting. -/
theorem Session.acquire_eq (session : Session) :
    ∃ limiter clock now sleeps, limiter.limit? = session.client.limiter.limit? ∧
      session.acquire.2 = ⟨{ session.client with limiter := limiter },
        { session.network with clock := clock, now := now, sleeps := sleeps }⟩ := by
  obtain ⟨limiter, hlimit, h | ⟨seconds, h⟩ | ⟨seconds, refusal, -, h⟩ | ⟨-, h⟩⟩ :=
    session.acquire_cases
  all_goals
    rw [h]
    exact ⟨limiter, _, _, _, hlimit, rfl⟩

/-- Only a limit beyond all numbers, or a machine that does not wait, keeps a token from being taken,
and nothing has been waited for then. -/
theorem Session.acquire_error_cases {session : Session} {error : HttpError}
    (h : session.acquire.1 = .error error) :
    session.acquire.2.network = session.network ∧
      ((session.client.limiter.isFinite = false ∧ error = .overflow tooLargeForDouble) ∨
        ∃ refusal, error = .wait refusal) := by
  obtain ⟨limiter, -, hcase | ⟨seconds, hcase⟩ | ⟨seconds, refusal, -, hcase⟩ |
    ⟨hinfinite, hcase⟩⟩ := session.acquire_cases
  · rw [hcase] at h
    exact absurd h (by simp)
  · rw [hcase] at h
    exact absurd h (by simp)
  · rw [hcase] at h ⊢
    exact ⟨rfl, Or.inr ⟨refusal, (Except.error.inj h).symm⟩⟩
  · rw [hcase] at h ⊢
    exact ⟨rfl, Or.inl ⟨hinfinite, (Except.error.inj h).symm⟩⟩

/-- What keeps a token from being taken is none of the exchange. -/
theorem Session.isTransport_of_acquire_error {session : Session} {error : HttpError}
    (h : session.acquire.1 = .error error) : error.isTransport = false := by
  rcases (Session.acquire_error_cases h).2 with ⟨-, rfl⟩ | ⟨refusal, rfl⟩
  · rfl
  · rfl

/-- An attempt for which a token is taken sends one call and takes the next answer of the feed. -/
theorem Session.exchange_of_taken {session : Session} (h : session.acquire.1 = .ok ()) :
    session.exchange url headers = (.ok (session.network.feed.ask url).1,
      (session.acquire.2.send url headers).2) := by
  obtain ⟨limiter, clock, now, sleeps, -, hacquire⟩ := session.acquire_eq
  rw [Session.exchange]
  simp only [h, hacquire]
  rfl

/-- Without a token the attempt is over. -/
theorem Session.exchange_of_error {session : Session} {error : HttpError}
    (h : session.acquire.1 = .error error) :
    session.exchange url headers = (.error error, session.acquire.2) := by
  rw [Session.exchange]
  simp only [h]

/-- The session after a call: the feed has given an answer. -/
theorem Session.send_acquire_eq (session : Session) :
    ∃ limiter clock now sleeps, limiter.limit? = session.client.limiter.limit? ∧
      (session.acquire.2.send url headers).2 =
        ⟨{ session.client with limiter := limiter },
          { session.network with
            feed := (session.network.feed.ask url).2
            clock := clock
            now := now
            calls := session.network.calls ++ [⟨url, headers, session.client.policy.timeout⟩]
            sleeps := sleeps }⟩ := by
  obtain ⟨limiter, clock, now, sleeps, hlimit, hacquire⟩ := session.acquire_eq
  refine ⟨limiter, clock, now, sleeps, hlimit, ?_⟩
  rw [Session.send, hacquire, Network.exchange]

/-- What an answer means tells whether its error is one of the exchange. -/
theorem Answer.isTransport_of_verdict {url : String} {answer : Answer} {error : HttpError} :
    (∀ asked, answer.verdict url = .retry error asked → error.isTransport = true) ∧
    (answer.verdict url = .final error → error.isTransport = true) ∧
    (answer.verdict url = .broken error → error.isTransport = false) := by
  cases answer with
  | failure kind message =>
    cases htransient : kind.isTransient with
    | true =>
      simp only [Answer.verdict, htransient, if_true, Verdict.retry.injEq, reduceCtorEq]
      refine ⟨?_, False.elim, False.elim⟩
      rintro asked ⟨rfl, -⟩
      exact htransient
    | false =>
      simp only [Answer.verdict, htransient, Verdict.broken.injEq, reduceCtorEq, Bool.false_eq_true,
        if_false, false_imp_iff, implies_true, true_and]
      rintro rfl
      exact htransient
  | response reply =>
    simp only [Answer.verdict]
    split
    · simp only [Verdict.retry.injEq, reduceCtorEq, false_imp_iff, and_true]
      rintro asked ⟨rfl, -⟩
      rfl
    · split
      · simp
      · simp only [Verdict.final.injEq, reduceCtorEq, false_imp_iff, implies_true, true_and,
          and_true]
        rintro rfl
        rfl

/-- A delay that cannot be told is beyond all numbers. -/
theorem RetryPolicy.overflow_of_backoff {policy : RetryPolicy} {attempt : Nat} {jitter : Float}
    {now : Time.Instant} {asked : Headers} {error : HttpError}
    (h : policy.backoff attempt jitter now asked = .error error) :
    ∃ message, error = .overflow message := by
  rw [RetryPolicy.backoff] at h
  split at h
  · next message _ => exact ⟨message, (Except.error.inj h).symm⟩
  · rw [RetryPolicy.delay] at h
    split at h
    · exact ⟨_, (Except.error.inj h).symm⟩
    · exact absurd h (by simp [Except.map])

/-- A pause changes the network only, by waiting and by the choice of the delay. -/
theorem Session.pause_eq (session : Session) (attempt : Nat) (asked : Headers) :
    ∃ clock now jitter sleeps, (session.pause attempt asked).2 =
      { session with network := { session.network with
          clock := clock, now := now, jitter := jitter, sleeps := sleeps } } := by
  rw [Session.pause]
  split
  · exact ⟨_, _, _, _, rfl⟩
  · next delay _ =>
    rcases session.network.drawn.sleep_cases delay with ⟨refusal, -, hsleep⟩ | ⟨-, hsleep⟩
    · simp only [hsleep]
      exact ⟨_, _, _, _, rfl⟩
    · simp only [hsleep]
      exact ⟨_, _, _, _, rfl⟩

/-- What keeps a request from going on is none of the exchange. -/
theorem Session.isTransport_of_pause_error {session : Session} {attempt : Nat} {asked : Headers}
    {error : HttpError} (h : (session.pause attempt asked).1 = .error error) :
    error.isTransport = false := by
  rw [Session.pause] at h
  split at h
  · next overflow hoverflow =>
    obtain ⟨message, rfl⟩ := RetryPolicy.overflow_of_backoff hoverflow
    obtain rfl := Except.error.inj h
    rfl
  · next delay _ =>
    rcases session.network.drawn.sleep_cases delay with ⟨refusal, -, hsleep⟩ | ⟨-, hsleep⟩
    · simp only [hsleep] at h
      obtain rfl := Except.error.inj h
      rfl
    · simp only [hsleep] at h
      exact absurd h (by simp)

/-- What an attempt leaves of a session: other tokens, a feed that may have given an answer, and
calls to the URL. -/
structure Session.Tried (session : Session) (url : String) (later : Session) : Prop where
  client : later.client = { session.client with limiter := later.client.limiter }
  limit : later.client.limiter.limit? = session.client.limiter.limit?
  feed : later.network.feed = session.network.feed ∨
    later.network.feed = (session.network.feed.ask url).2
  calls : ∃ block : List Call, later.network.calls = session.network.calls ++ block ∧
    ∀ call ∈ block, call.url = url

theorem Session.tried_acquire (session : Session) : session.Tried url session.acquire.2 := by
  obtain ⟨limiter, clock, now, sleeps, hlimit, hacquire⟩ := session.acquire_eq
  rw [hacquire]
  exact ⟨rfl, hlimit, Or.inl rfl, [], by simp, by simp⟩

theorem Session.tried_send (session : Session) :
    session.Tried url (session.acquire.2.send url headers).2 := by
  obtain ⟨limiter, clock, now, sleeps, hlimit, hsend⟩ := session.send_acquire_eq url headers
  rw [hsend]
  exact ⟨rfl, hlimit, Or.inr rfl, _, rfl, by simp⟩

theorem Session.Tried.pause {session later : Session} {url : String} (h : session.Tried url later)
    (attempt : Nat) (asked : Headers) : session.Tried url (later.pause attempt asked).2 := by
  obtain ⟨clock, now, jitter, sleeps, hpause⟩ := later.pause_eq attempt asked
  rw [hpause]
  exact ⟨h.client, h.limit, h.feed, h.calls⟩

/-- What an attempt comes to when others may be left: the request has succeeded, it has failed with
an error of the exchange, something has gone wrong that is none, or it goes on. -/
theorem Session.tryRequest_cases (left attempt : Nat) (session : Session) :
    let tried := session.tryRequest url headers (left + 1) attempt
    ∃ later, session.Tried url later ∧
      ((∃ response, (session.network.feed.ask url).1.verdict url = .success response ∧
          tried = (.ok response, later.succeed)) ∨
        (∃ error, error.isTransport = true ∧ tried = (.error error, later.fail)) ∨
        (∃ error, error.isTransport = false ∧ tried = (.error error, later)) ∨
        (0 < left ∧ tried = later.tryRequest url headers left (attempt + 1))) := by
  intro tried
  have htried : session.tryRequest url headers (left + 1) attempt = tried := rfl
  rw [Session.tryRequest] at htried
  cases htaken : session.acquire.1 with
  | error error =>
    have hother := Session.isTransport_of_acquire_error htaken
    rw [Session.exchange_of_error url headers htaken] at htried
    exact ⟨_, session.tried_acquire url, Or.inr (Or.inr (Or.inl ⟨error, hother, htried.symm⟩))⟩
  | ok _ =>
    -- All exits behind the call are those of the session that has sent it.
    have hsent := session.tried_send url headers
    rw [Session.exchange_of_taken url headers htaken] at htried
    dsimp only at htried
    split at htried
    · next response hsuccess =>
      exact ⟨_, hsent, Or.inl ⟨response, hsuccess, htried.symm⟩⟩
    · next error hfinal =>
      have htransport := Answer.isTransport_of_verdict.2.1 hfinal
      exact ⟨_, hsent, Or.inr (Or.inl ⟨error, htransport, htried.symm⟩)⟩
    · next error hbroken =>
      have hother := Answer.isTransport_of_verdict.2.2 hbroken
      exact ⟨_, hsent, Or.inr (Or.inr (Or.inl ⟨error, hother, htried.symm⟩))⟩
    · next error asked hretry =>
      split at htried
      · -- The last attempt has failed, whatever its failure would allow.
        have htransport := Answer.isTransport_of_verdict.1 asked hretry
        exact ⟨_, hsent, Or.inr (Or.inl ⟨error, htransport, htried.symm⟩)⟩
      · next hmore =>
        have hpaused := hsent.pause attempt asked
        split at htried
        · next broken hbroken =>
          have hother := Session.isTransport_of_pause_error hbroken
          exact ⟨_, hpaused, Or.inr (Or.inr (Or.inl ⟨broken, hother, htried.symm⟩))⟩
        · exact ⟨_, hpaused, Or.inr (Or.inr (Or.inr ⟨Nat.pos_of_ne_zero hmore, htried.symm⟩))⟩

/-- A response that attempts succeed with is one of the feed. -/
theorem Session.tryRequest_ok_serves {response : Response} (left : Nat) :
    ∀ (attempt : Nat) (session : Session),
      (session.tryRequest url headers left attempt).1 = .ok response →
      session.network.feed.Serves url response := by
  -- The session varies in the induction, because an attempt leaves another feed.
  induction left with
  | zero =>
    intro attempt session h
    rw [Session.tryRequest] at h
    exact absurd h (by simp)
  | succ left ih =>
    intro attempt session h
    obtain ⟨later, htries, ⟨found, hsuccess, htried⟩ | ⟨error, -, htried⟩ | ⟨error, -, htried⟩ |
      ⟨-, htried⟩⟩ := session.tryRequest_cases url headers left attempt
    · rw [htried] at h
      obtain rfl := Except.ok.inj h
      exact Feed.serves_of_verdict hsuccess
    · rw [htried] at h
      exact absurd h (by simp)
    · rw [htried] at h
      exact absurd h (by simp)
    · rw [htried] at h
      have hlater := ih (attempt + 1) _ h
      rcases htries.feed with hfeed | hfeed
      · rw [hfeed] at hlater
        exact hlater
      · rw [hfeed] at hlater
        exact Feed.serves_of_serves_ask hlater

/-- Attempts send calls to their URL only. -/
theorem Session.tryRequest_calls (left : Nat) :
    ∀ (attempt : Nat) (session : Session), ∃ block : List Call,
      (session.tryRequest url headers left attempt).2.network.calls =
        session.network.calls ++ block ∧ ∀ call ∈ block, call.url = url := by
  induction left with
  | zero =>
    intro attempt session
    exact ⟨[], by simp [Session.tryRequest, Session.fail], by simp⟩
  | succ left ih =>
    intro attempt session
    obtain ⟨later, htries, ⟨response, -, htried⟩ | ⟨error, -, htried⟩ | ⟨error, -, htried⟩ |
      ⟨-, htried⟩⟩ := session.tryRequest_cases url headers left attempt
    · rw [htried]
      exact htries.calls
    · rw [htried]
      exact htries.calls
    · rw [htried]
      exact htries.calls
    · -- The calls of this attempt come before those of the attempts after it.
      obtain ⟨first, hfirst, hurl⟩ := htries.calls
      obtain ⟨block, hblock, hurls⟩ := ih (attempt + 1) later
      refine ⟨first ++ block, ?_, ?_⟩
      · rw [htried, hblock, hfirst, List.append_assoc]
      · exact List.forall_mem_append.2 ⟨hurl, hurls⟩

/-- A response that a request succeeds with is one of the feed. -/
theorem Session.request_ok_serves {session : Session} {response : Response}
    (h : (session.request url headers).1 = .ok response) :
    session.network.feed.Serves url response := by
  rw [Session.request] at h
  dsimp only at h
  split at h
  · have hserves := Session.tryRequest_ok_serves url headers _ _ _ h
    exact hserves
  · exact absurd h (by simp)

/-- A request sends calls to its URL only. -/
theorem Session.request_calls (session : Session) :
    ∃ block : List Call, (session.request url headers).2.network.calls =
      session.network.calls ++ block ∧ ∀ call ∈ block, call.url = url := by
  rw [Session.request]
  dsimp only
  split
  · exact Session.tryRequest_calls url headers _ _ _
  · exact ⟨[], by simp, by simp⟩

end Attempts

/-! ## Requests one after the other -/

/-- The session after the client has been asked for URLs one after the other. -/
def Session.askAll : List String → Session → Session
  | [], session => session
  | url :: urls, session => askAll urls (session.request url none).2

theorem Session.askAll_append (urls more : List String) (session : Session) :
    session.askAll (urls ++ more) = (session.askAll urls).askAll more := by
  induction urls generalizing session with
  | nil => rfl
  | cons url urls ih => exact ih _

/-- Being asked for URLs, the client sends a block of calls for each of them, in their order. -/
theorem Session.calls_askAll (urls : List String) :
    ∀ session : Session, ∃ blocks : List (List Call),
      (session.askAll urls).network.calls = session.network.calls ++ blocks.flatten ∧
      List.Forall₂ (fun url block => ∀ call ∈ block, call.url = url) urls blocks := by
  induction urls with
  | nil =>
    intro session
    exact ⟨[], by simp [Session.askAll], List.Forall₂.nil⟩
  | cons url urls ih =>
    intro session
    obtain ⟨block, hblock, hurl⟩ := session.request_calls url none
    obtain ⟨blocks, hblocks, hurls⟩ := ih (session.request url none).2
    refine ⟨block :: blocks, ?_, List.Forall₂.cons hurl hurls⟩
    rw [Session.askAll, hblocks, hblock, List.flatten_cons, List.append_assoc]

end AdvisoryFeed.Http
