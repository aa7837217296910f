import AdvisoryFeed.Proofs.Http.Retries

/-!
# Probes of an open breaker

The probe of an open breaker ends in one of three ways: it succeeds and the breaker closes, it
fails with an error of the exchange and the breaker opens anew, or it ends with an error that is
none of the exchange, and nothing is recorded (`Session.request_settles`). In the first two ways the
breaker is no longer half open. In the third one of its attempts breaks off (`Session.BreaksAt`), and
the probe is stranded (`Session.Strands`): the breaker waits for an outcome that does not come, and
refuses every request from then on.

A session is used by requests, and between them its network changes in any way (`Session.Use`). From
a fresh breaker on, the breaker is half open between two requests exactly when a probe was stranded
(`Session.halfOpen_iff_stranded`).
-/

namespace AdvisoryFeed.Http

open AdvisoryFeed.Time

/-! ## Breakers that operations reach -/

namespace Breaker

/-- The breaker after what comes of a request: a success is recorded, or a failure of the exchange,
and of any other error nothing. -/
def settle (breaker : Breaker) (now : Float) : Except HttpError Response → Breaker
  | .ok _ => breaker.succeed
  | .error error => if error.isTransport then breaker.fail now else breaker

/-- The breaker is what some past has made of a fresh one. -/
def Reached (threshold : Int) (openSeconds : Float) (breaker : Breaker) : Prop :=
  ∃ trace : Trace, trace.Tracks threshold openSeconds ∧ trace.breaker = breaker

section Reached

variable {threshold : Int} {openSeconds : Float} {breaker : Breaker}

theorem reached_fresh (hthreshold : 1 ≤ threshold) :
    Reached threshold openSeconds (Breaker.fresh threshold openSeconds) :=
  ⟨Trace.fresh threshold openSeconds 0.0, Trace.tracks_fresh hthreshold 0.0, rfl⟩

/-- What is done with the breaker at some time leaves one that is reached. -/
theorem Reached.step (h : Reached threshold openSeconds breaker) (hthreshold : 1 ≤ threshold)
    (now : Float) (operation : Operation) :
    ∃ trace : Trace, trace.breaker = breaker ∧ trace.now = now ∧
      Reached threshold openSeconds (trace.step operation).breaker := by
  obtain ⟨trace, htracks, rfl⟩ := h
  have hpassed := htracks.step hthreshold (.pass now)
  exact ⟨trace.step (.pass now), rfl, rfl, _, hpassed.step hthreshold operation, rfl⟩

theorem Reached.attempt (h : Reached threshold openSeconds breaker) (hthreshold : 1 ≤ threshold)
    (now : Float) : Reached threshold openSeconds (breaker.attempt now).2 := by
  obtain ⟨trace, rfl, rfl, hreached⟩ := h.step hthreshold now .attempt
  exact hreached

theorem Reached.settle (h : Reached threshold openSeconds breaker) (hthreshold : 1 ≤ threshold)
    (now : Float) (result : Except HttpError Response) :
    Reached threshold openSeconds (breaker.settle now result) := by
  cases result with
  | ok response =>
    obtain ⟨trace, rfl, -, hreached⟩ := h.step hthreshold now .succeed
    exact hreached
  | error error =>
    rw [Breaker.settle]
    split
    · obtain ⟨trace, rfl, rfl, hreached⟩ := h.step hthreshold now .fail
      exact hreached
    · exact h

/-- A closed breaker is not half open. -/
theorem Reached.isSome_of_halfOpen (h : Reached threshold openSeconds breaker)
    (hhalf : breaker.halfOpen = true) : breaker.openedAt.isSome = true := by
  obtain ⟨trace, htracks, rfl⟩ := h
  rw [Option.isSome_iff_ne_none]
  intro hnone
  rw [htracks.closed hnone] at hhalf
  exact Bool.false_ne_true hhalf

theorem Reached.openSeconds_eq (h : Reached threshold openSeconds breaker) :
    breaker.openSeconds = openSeconds := by
  obtain ⟨trace, htracks, rfl⟩ := h
  exact htracks.settings.2

/-- No failure leaves a breaker half open: an open one has reached its threshold long since. -/
theorem Reached.halfOpen_fail (h : Reached threshold openSeconds breaker) (now : Float) :
    (breaker.fail now).halfOpen = false := by
  obtain ⟨trace, htracks, rfl⟩ := h
  rw [Breaker.fail]
  split
  · rfl
  · next hbelow =>
    apply htracks.closed
    by_contra hopen
    have hreached := htracks.isOpen.1 hopen
    rw [← htracks.failures, ← htracks.settings.1] at hreached
    omega

/-- After a request that was granted the breaker is half open exactly when it was before, and
nothing is recorded. -/
theorem Reached.halfOpen_settle_iff (h : Reached threshold openSeconds breaker) (now : Float)
    (result : Except HttpError Response) :
    (breaker.settle now result).halfOpen = true ↔ breaker.halfOpen = true ∧
      ∃ error, result = .error error ∧ error.isTransport = false := by
  cases result with
  | ok response => simp [Breaker.settle, Breaker.succeed]
  | error error =>
    -- A failure that is recorded opens the breaker anew; of another one the breaker hears nothing.
    cases htransport : error.isTransport with
    | true => simp [Breaker.settle, htransport, h.halfOpen_fail now]
    | false => simp [Breaker.settle, htransport]

end Reached

end Breaker

/-! ## What a request records -/

section Requests

variable (url : String) (headers : Option Headers)

/-- Attempts settle the breaker by what comes of them, and keep to their policy. -/
theorem Session.tryRequest_settles (left : Nat) :
    ∀ (attempt : Nat) (session : Session), 0 < left →
      let done := session.tryRequest url headers left attempt
      (∃ now, done.2.client.breaker = session.client.breaker.settle now done.1) ∧
        done.2.client.policy = session.client.policy := by
  -- The session varies in the induction: an attempt that is not the last one changes its limiter
  -- and its network, but leaves the breaker alone.
  induction left with
  | zero =>
    intro attempt session hleft
    exact absurd hleft (Nat.lt_irrefl 0)
  | succ left ih =>
    intro attempt session _
    obtain ⟨later, htries, hcases⟩ := session.tryRequest_cases url headers left attempt
    have hbreaker : later.client.breaker = session.client.breaker := by rw [htries.client]
    have hpolicy : later.client.policy = session.client.policy := by rw [htries.client]
    dsimp only
    rcases hcases with ⟨response, -, htried⟩ | ⟨error, htransport, htried⟩ |
      ⟨error, hother, htried⟩ | ⟨hmore, htried⟩
    · rw [htried, ← hbreaker]
      exact ⟨⟨0.0, rfl⟩, hpolicy⟩
    · rw [htried, ← hbreaker]
      refine ⟨⟨later.network.clock, ?_⟩, hpolicy⟩
      rw [Breaker.settle, if_pos htransport]
      rfl
    · rw [htried, ← hbreaker]
      refine ⟨⟨0.0, ?_⟩, hpolicy⟩
      simp [Breaker.settle, hother]
    · rw [htried, ← hbreaker, ← hpolicy]
      exact ih (attempt + 1) later hmore

/-- A request that the breaker grants settles it by what comes of the request, and keeps to the
policy. -/
theorem Session.request_settles {session : Session}
    (hretries : 0 ≤ session.client.policy.maxRetries)
    (hgranted : (session.client.breaker.attempt session.network.clock).1 = true) :
    (∃ now, (session.request url headers).2.client.breaker =
      (session.client.breaker.attempt session.network.clock).2.settle now
        (session.request url headers).1) ∧
      (session.request url headers).2.client.policy = session.client.policy := by
  have hmost : 0 < (session.client.policy.maxRetries + 1).toNat := by omega
  rw [Session.request, if_pos hgranted]
  exact Session.tryRequest_settles url headers _ 0 session.granted hmost

end Requests

/-! ## Sessions in use -/

/-- What may happen in a session. -/
inductive Session.Use where
  /-- A document is asked for. -/
  | request (url : String) (headers : Option Headers)
  /-- Time passes, and the network changes with it. -/
  | pass (change : Network → Network)

/-- The session after a use. -/
def Session.use (session : Session) : Use → Session
  | .request url headers => (session.request url headers).2
  | .pass change => { session with network := change session.network }

/-- The session after one use after the other. -/
def Session.useAll (uses : List Use) (session : Session) : Session :=
  uses.foldl Session.use session

/-- The request is granted as the probe of an open breaker, and one of its attempts ends it without
an outcome. -/
structure Session.Strands (session : Session) (url : String) (headers : Option Headers) : Prop where
  isOpen : session.client.breaker.openedAt.isSome = true
  granted : (session.client.breaker.attempt session.network.clock).1 = true
  breaks : ∃ delays, session.granted.BreaksAt url headers delays

/-- A session that a fresh breaker may have come to, with attempts allowed. -/
structure Session.Usable (threshold : Int) (openSeconds : Float) (session : Session) : Prop where
  reached : session.client.breaker.Reached threshold openSeconds
  retries : 0 ≤ session.client.policy.maxRetries

section Uses

variable {threshold : Int} {openSeconds : Float} {session : Session}

/-- A breaker that is half open refuses every request, and stays as it is. -/
theorem Session.request_of_halfOpen (h : session.Usable threshold openSeconds)
    (hhalf : session.client.breaker.halfOpen = true) (url : String) (headers : Option Headers) :
    session.request url headers = (.error (.circuitOpen session.client.source), session) := by
  obtain ⟨opened, hopened⟩ := Option.isSome_iff_exists.1 (h.reached.isSome_of_halfOpen hhalf)
  apply Session.request_refused
  simp [Breaker.attempt, hopened, hhalf]

theorem Session.Usable.use (h : session.Usable threshold openSeconds) (hthreshold : 1 ≤ threshold)
    (use : Use) : (session.use use).Usable threshold openSeconds := by
  cases use with
  | pass change => exact ⟨h.reached, h.retries⟩
  | request url headers =>
    rw [Session.use]
    cases hgranted : (session.client.breaker.attempt session.network.clock).1 with
    | false =>
      rw [Session.request_refused url headers hgranted]
      exact h
    | true =>
      obtain ⟨⟨now, hbreaker⟩, hpolicy⟩ := Session.request_settles url headers h.retries hgranted
      constructor
      · rw [hbreaker]
        exact (h.reached.attempt hthreshold _).settle hthreshold now _
      · rw [hpolicy]
        exact h.retries

/-- A request leaves the breaker half open when it strands, or when the breaker was half open
before. -/
theorem Session.Usable.halfOpen_request_iff (h : session.Usable threshold openSeconds)
    (hthreshold : 1 ≤ threshold) (url : String) (headers : Option Headers) :
    (session.request url headers).2.client.breaker.halfOpen = true ↔
      session.client.breaker.halfOpen = true ∨ session.Strands url headers := by
  rcases Breaker.attempt_cases session.client.breaker session.network.clock with
    ⟨hnone, hasked⟩ | ⟨opened, hopened, -, hhalf, hasked⟩ | ⟨opened, hopened, -, hasked⟩
  · -- A closed breaker grants the request, but not as a probe.
    have hgranted : (session.client.breaker.attempt session.network.clock).1 = true := by
      rw [hasked]
    obtain ⟨⟨now, hbreaker⟩, -⟩ := Session.request_settles url headers h.retries hgranted
    have hclosed : ¬ session.client.breaker.halfOpen = true := by
      intro hhalf
      have hsome := h.reached.isSome_of_halfOpen hhalf
      rw [hnone] at hsome
      exact Bool.false_ne_true hsome
    have hnot : ¬ session.Strands url headers := by
      intro hstrands
      have hsome := hstrands.isOpen
      rw [hnone] at hsome
      exact Bool.false_ne_true hsome
    rw [hbreaker, hasked, h.reached.halfOpen_settle_iff]
    simp [hclosed, hnot]
  · -- The probe of an open breaker leaves it half open when nothing is recorded.
    have hgranted : (session.client.breaker.attempt session.network.clock).1 = true := by
      rw [hasked]
    obtain ⟨⟨now, hbreaker⟩, -⟩ := Session.request_settles url headers h.retries hgranted
    have hprobe := h.reached.attempt hthreshold session.network.clock
    rw [hbreaker, hprobe.halfOpen_settle_iff, Session.other_iff_breaksAt hgranted h.retries]
    constructor
    · rintro ⟨-, hbreaks⟩
      exact Or.inr ⟨by rw [hopened]; rfl, hgranted, hbreaks⟩
    · rintro (hbefore | hstrands)
      · rw [hhalf] at hbefore
        exact absurd hbefore Bool.false_ne_true
      · rw [hasked]
        exact ⟨rfl, hstrands.breaks⟩
  · -- A request that is refused changes nothing, so it strands nothing either.
    have hrefused : (session.client.breaker.attempt session.network.clock).1 = false := by
      rw [hasked]
    have hnot : ¬ session.Strands url headers := by
      intro hstrands
      exact Bool.false_ne_true (hrefused.symm.trans hstrands.granted)
    rw [Session.request_refused url headers hrefused]
    simp [hnot]

/-- Some request among the uses strands, in the session that it meets. -/
def Session.StrandsAmong (session : Session) (uses : List Use) : Prop :=
  ∃ before url headers after, uses = before ++ .request url headers :: after ∧
    (session.useAll before).Strands url headers

theorem Session.strandsAmong_cons_iff (session : Session) (use : Use) (uses : List Use) :
    session.StrandsAmong (use :: uses) ↔
      (∃ url headers, use = .request url headers ∧ session.Strands url headers) ∨
        (session.use use).StrandsAmong uses := by
  constructor
  · rintro ⟨before, url, headers, after, huses, hstrands⟩
    cases before with
    | nil =>
      obtain ⟨rfl, -⟩ := List.cons.inj huses
      exact Or.inl ⟨url, headers, rfl, hstrands⟩
    | cons first before =>
      obtain ⟨rfl, rfl⟩ := List.cons.inj huses
      exact Or.inr ⟨before, url, headers, after, rfl, hstrands⟩
  · rintro (⟨url, headers, rfl, hstrands⟩ | ⟨before, url, headers, after, rfl, hstrands⟩)
    · exact ⟨[], url, headers, uses, rfl, hstrands⟩
    · exact ⟨use :: before, url, headers, after, rfl, hstrands⟩

/-- After some uses the breaker is half open when it was so before them, or when one of them was a
request that strands. -/
theorem Session.Usable.halfOpen_useAll_iff (hthreshold : 1 ≤ threshold) (uses : List Use) :
    ∀ {session : Session}, session.Usable threshold openSeconds →
      ((session.useAll uses).client.breaker.halfOpen = true ↔
        session.client.breaker.halfOpen = true ∨ session.StrandsAmong uses) := by
  induction uses with
  | nil =>
    intro session _
    simp [Session.useAll, Session.StrandsAmong]
  | cons use uses ih =>
    intro session h
    have hrest := ih (h.use hthreshold use)
    -- What is stranded later is stranded in the session after the first use.
    change ((session.use use).useAll uses).client.breaker.halfOpen = true ↔ _
    rw [hrest, Session.strandsAmong_cons_iff, ← or_assoc]
    apply or_congr_left
    cases use with
    | pass change => simp [Session.use]
    | request url headers =>
      rw [Session.use, h.halfOpen_request_iff hthreshold url headers]
      simp

theorem Session.Usable.useAll (hthreshold : 1 ≤ threshold) (uses : List Use) :
    ∀ {session : Session}, session.Usable threshold openSeconds →
      (session.useAll uses).Usable threshold openSeconds := by
  induction uses with
  | nil =>
    intro session h
    exact h
  | cons use uses ih =>
    intro session h
    exact ih (h.use hthreshold use)

/-- A breaker that is half open stays so, and with it the client stays as it is. -/
theorem Session.client_useAll_of_halfOpen (hthreshold : 1 ≤ threshold) (uses : List Use) :
    ∀ {session : Session}, session.Usable threshold openSeconds →
      session.client.breaker.halfOpen = true →
      (session.useAll uses).client = session.client := by
  induction uses with
  | nil =>
    intro session _ _
    rfl
  | cons use uses ih =>
    intro session h hhalf
    have hsame : (session.use use).client = session.client := by
      cases use with
      | pass change => rfl
      | request url headers => rw [Session.use, Session.request_of_halfOpen h hhalf]
    have hlater := ih (h.use hthreshold use) (by rw [hsame]; exact hhalf)
    exact hlater.trans hsame

/-- Whatever a client with a fresh breaker is asked for, and however the network changes in between:
the breaker is half open between two requests exactly when a probe was stranded. As long as it is
not, a request is granted once the breaker has been open for long enough; from then on, every
request is refused. -/
theorem Session.halfOpen_iff_stranded (uses : List Use)
    (hfresh : session.client.breaker = Breaker.fresh threshold openSeconds)
    (hthreshold : 1 ≤ threshold) (hretries : 0 ≤ session.client.policy.maxRetries) :
    let last := session.useAll uses
    (last.client.breaker.halfOpen = true ↔ session.StrandsAmong uses) ∧
    (last.client.breaker.halfOpen = false → ∀ opened, last.client.breaker.openedAt = some opened →
      last.network.clock - opened ≥ openSeconds →
      (last.client.breaker.attempt last.network.clock).1 = true) ∧
    (last.client.breaker.halfOpen = true → ∀ more url headers,
      ((last.useAll more).request url headers).1 = .error (.circuitOpen last.client.source)) := by
  intro last
  have husable : session.Usable threshold openSeconds :=
    ⟨by rw [hfresh]; exact Breaker.reached_fresh hthreshold, hretries⟩
  have hlast : last.Usable threshold openSeconds := husable.useAll hthreshold uses
  refine ⟨?_, ?_, ?_⟩
  · rw [husable.halfOpen_useAll_iff hthreshold uses, hfresh]
    simp [Breaker.fresh]
  · intro hhalf opened hopened hdue
    rw [← hlast.reached.openSeconds_eq] at hdue
    simp [Breaker.attempt, hopened, hdue, hhalf]
  · intro hhalf more url headers
    have hsame := Session.client_useAll_of_halfOpen hthreshold more hlast hhalf
    have hmore := hlast.useAll hthreshold more
    rw [Session.request_of_halfOpen hmore (by rw [hsame]; exact hhalf), hsame]

end Uses

/-! ## Probes that are stranded -/

/-- A breaker that one failure opens. The server cannot answer, then there is no answer in time,
then one that the connection cannot use, and at last the document. -/
def failingSession : Session :=
  answeringSession 0 (Limiter.full none none 1000.0) (Breaker.fresh 1 10.0)
    [.response ⟨500, [], []⟩, .failure .timeout "read timed out", .failure .value "bad chunk",
      .response ⟨200, [], [120]⟩]

/-- Ten seconds pass. -/
def tenSeconds : Session.Use :=
  .pass fun network => { network with clock := network.clock + 10.0 }

/-- The first request opens the breaker. Of the two probes the first one fails and opens it anew. -/
def failingUses : List Session.Use :=
  [.request "u" none, tenSeconds, .request "u" none, tenSeconds, .request "u" none, tenSeconds]

theorem Session.halfOpen_iff_stranded_badChunk :
    let last := failingSession.useAll failingUses
    (failingSession.client.breaker = Breaker.fresh 1 10.0 ∧ (1 : Int) ≤ 1 ∧
      0 ≤ failingSession.client.policy.maxRetries) ∧
    ¬ failingSession.StrandsAmong (failingUses.take 3) ∧ failingSession.StrandsAmong failingUses ∧
    ∀ more url headers,
      ((last.useAll more).request url headers).1 = .error (.circuitOpen last.client.source) := by
  intro last
  have hthreshold : (1 : Int) ≤ 1 := by decide
  have hretries : 0 ≤ failingSession.client.policy.maxRetries := by decide
  have hbefore := Session.halfOpen_iff_stranded (failingUses.take 3) rfl hthreshold hretries
  obtain ⟨hiff, -, hrefused⟩ :=
    Session.halfOpen_iff_stranded failingUses rfl hthreshold hretries
  have hhalf : last.client.breaker.halfOpen = true := by decide +kernel
  refine ⟨⟨rfl, hthreshold, hretries⟩, ?_, hiff.1 hhalf, hrefused hhalf⟩
  rw [← hbefore.1]
  decide +kernel

/-- A breaker that one failure opens, and one retry. The server cannot answer twice, then it is to be
asked again after more seconds than the machine can count, and at last it has the document. -/
def postponedSession : Session :=
  answeringSession 1 (Limiter.full none none 1000.0) (Breaker.fresh 1 10.0)
    [.response ⟨500, [], []⟩, .response ⟨500, [], []⟩,
      .response ⟨503, [("Retry-After", "99999999999")], []⟩, .response ⟨200, [], [120]⟩]

/-- The first request opens the breaker, and the second one is its probe. -/
def postponedUses : List Session.Use :=
  [.request "u" none, tenSeconds, .request "u" none, tenSeconds]

/-- The breaker of a client was fresh, and stays half open after a request has ended. When it has
been open for long enough, the next request is refused, and the document is not asked for. -/
structure Session.Wedges (session : Session) (uses : List Use) : Prop where
  fresh : session.client.breaker = Breaker.fresh 1 10.0
  retries : 0 ≤ session.client.policy.maxRetries
  halfOpen : (session.useAll uses).client.breaker.halfOpen = true
  due : ∃ opened, (session.useAll uses).client.breaker.openedAt = some opened ∧
    (session.useAll uses).network.clock - opened ≥ 10.0
  answer : (session.useAll uses).network.feed.answer "u" 0 = .response ⟨200, [], [120]⟩
  refused : ((session.useAll uses).request "u" none).1 = .error (.circuitOpen "oracle")

/-- A probe is stranded by a failure that is none of the exchange, and by a wait that the machine
refuses. -/
theorem Session.probe_refused :
    failingSession.Wedges failingUses ∧ postponedSession.Wedges postponedUses :=
  ⟨⟨rfl, by decide, by decide +kernel, ⟨1010.0, by decide +kernel, by decide +kernel⟩,
    by decide +kernel, by decide +kernel⟩,
    rfl, by decide, by decide +kernel, ⟨1001.0, by decide +kernel, by decide +kernel⟩,
    by decide +kernel, by decide +kernel⟩

end AdvisoryFeed.Http
