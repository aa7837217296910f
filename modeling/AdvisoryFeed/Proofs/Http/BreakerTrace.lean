import AdvisoryFeed.Http.Breaker
import Mathlib.Tactic.ByContra

/-!
# The past of a breaker

A breaker keeps three fields, and its past determines all of them. A `Breaker.Trace` is a breaker
with the time on its clock and with what has happened to it, the latest event first. The past says
how many requests have failed since the last success, when the latest of them failed, and how many
attempts were granted since then.

`Breaker.Trace.Tracks` relates the fields to the past; each operation preserves it. From it follows
the law of all traces of a fresh breaker (`Breaker.run_lawful`): when it is open and when it is half
open, which attempts it grants, and that an open breaker grants one attempt between two outcomes.
-/

namespace AdvisoryFeed.Http

/-- What may be done with a breaker. -/
inductive Breaker.Operation where
  /-- An attempt is asked for. -/
  | attempt
  /-- A request has succeeded. -/
  | succeed
  /-- A request has failed. -/
  | fail
  /-- The clock goes on to a time. -/
  | pass (now : Float)

/-- What has happened to a breaker. -/
inductive Breaker.Event where
  | granted
  | refused
  | succeeded
  | failed (now : Float)
deriving Repr

/-- A breaker in the course of events. -/
structure Breaker.Trace where
  breaker : Breaker
  /-- The time on the clock. -/
  now : Float
  /-- What has happened, the latest event first. -/
  past : List Event

namespace Breaker

/-- Before anything has happened. -/
def Trace.fresh (threshold : Int) (openSeconds now : Float) : Trace :=
  ⟨Breaker.fresh threshold openSeconds, now, []⟩

/-- Does something with the breaker and remembers what has come of it. -/
def Trace.step (trace : Trace) : Operation → Trace
  | .attempt =>
    let asked := trace.breaker.attempt trace.now
    { trace with
      breaker := asked.2
      past := (if asked.1 then .granted else .refused) :: trace.past }
  | .succeed => { trace with breaker := trace.breaker.succeed, past := .succeeded :: trace.past }
  | .fail =>
    { trace with
      breaker := trace.breaker.fail trace.now
      past := .failed trace.now :: trace.past }
  | .pass now => { trace with now := now }

/-- Does one thing after the other with the breaker. -/
def Trace.run (operations : List Operation) (trace : Trace) : Trace :=
  operations.foldl Trace.step trace

/-! ## What the past says -/

/-- The failures since the last success. -/
def failuresSinceSuccess : List Event → Nat
  | [] => 0
  | .succeeded :: _ => 0
  | .failed _ :: past => failuresSinceSuccess past + 1
  | .granted :: past => failuresSinceSuccess past
  | .refused :: past => failuresSinceSuccess past

/-- The time of the latest failure. -/
def latestFailure? : List Event → Option Float
  | [] => none
  | .failed now :: _ => some now
  | .succeeded :: past => latestFailure? past
  | .granted :: past => latestFailure? past
  | .refused :: past => latestFailure? past

/-- The attempts that were granted since the latest failure. -/
def grantsSinceFailure : List Event → Nat
  | [] => 0
  | .failed _ :: _ => 0
  | .granted :: past => grantsSinceFailure past + 1
  | .succeeded :: past => grantsSinceFailure past
  | .refused :: past => grantsSinceFailure past

/-- The attempts that were granted since the latest outcome, success or failure. -/
def grantsSinceOutcome : List Event → Nat
  | [] => 0
  | .failed _ :: _ => 0
  | .succeeded :: _ => 0
  | .granted :: past => grantsSinceOutcome past + 1
  | .refused :: past => grantsSinceOutcome past

/-- When there are failures since the last success, the latest outcome is a failure. -/
theorem grantsSinceOutcome_eq {past : List Event} (h : 0 < failuresSinceSuccess past) :
    grantsSinceOutcome past = grantsSinceFailure past := by
  induction past with
  | nil => rfl
  | cons event past ih =>
    cases event with
    | granted =>
      rw [grantsSinceOutcome, grantsSinceFailure, ih h]
    | refused =>
      rw [grantsSinceOutcome, grantsSinceFailure, ih h]
    | succeeded => exact absurd h (Nat.lt_irrefl 0)
    | failed now => rfl

/-! ## The invariant -/

section Traces

variable {threshold : Int} {openSeconds : Float}

/-- The fields of the breaker are what the past says. -/
structure Trace.Tracks (threshold : Int) (openSeconds : Float) (trace : Trace) : Prop where
  settings : trace.breaker.threshold = threshold ∧ trace.breaker.openSeconds = openSeconds
  failures : trace.breaker.failures = failuresSinceSuccess trace.past
  /-- The breaker is open from the failure on that reaches the threshold. -/
  isOpen : trace.breaker.openedAt ≠ none ↔ threshold ≤ failuresSinceSuccess trace.past
  openedAt : ∀ opened, trace.breaker.openedAt = some opened →
    latestFailure? trace.past = some opened
  /-- The probe of an open breaker is the only attempt granted since the latest failure. -/
  probe : trace.breaker.openedAt ≠ none →
    grantsSinceFailure trace.past = trace.breaker.halfOpen.toNat
  closed : trace.breaker.openedAt = none → trace.breaker.halfOpen = false

theorem Trace.tracks_fresh (hthreshold : 1 ≤ threshold) (now : Float) :
    (Trace.fresh threshold openSeconds now).Tracks threshold openSeconds where
  settings := ⟨rfl, rfl⟩
  failures := rfl
  isOpen := by
    constructor
    · intro h
      exact absurd rfl h
    · intro h
      have hzero : threshold ≤ 0 := h
      omega
  openedAt := by
    intro opened h
    exact absurd h (by simp [Trace.fresh, Breaker.fresh])
  probe := by
    intro h
    exact absurd rfl h
  closed := by
    intro _
    rfl

/-- What becomes of an attempt that is asked for: a closed breaker grants it and stays as it is, an
open one grants it as the probe when it is due and otherwise refuses it. -/
theorem attempt_cases (breaker : Breaker) (now : Float) :
    (breaker.openedAt = none ∧ breaker.attempt now = (true, breaker)) ∨
    (∃ opened, breaker.openedAt = some opened ∧ now - opened ≥ breaker.openSeconds ∧
      breaker.halfOpen = false ∧ breaker.attempt now = (true, { breaker with halfOpen := true })) ∨
    ∃ opened, breaker.openedAt = some opened ∧
      ¬ (now - opened ≥ breaker.openSeconds ∧ breaker.halfOpen = false) ∧
      breaker.attempt now = (false, breaker) := by
  rw [Breaker.attempt]
  cases hopened : breaker.openedAt with
  | none => exact Or.inl ⟨rfl, rfl⟩
  | some opened =>
    right
    by_cases hdue : now - opened ≥ breaker.openSeconds ∧ breaker.halfOpen = false
    · exact Or.inl ⟨opened, rfl, hdue.1, hdue.2, by simp [hdue.1, hdue.2]⟩
    · refine Or.inr ⟨opened, rfl, hdue, ?_⟩
      have hguard : (decide (now - opened ≥ breaker.openSeconds) && !breaker.halfOpen) = false := by
        simpa using hdue
      simp [hguard]

/-- Each operation keeps the fields in step with the past. -/
theorem Trace.Tracks.step {trace : Trace} (h : trace.Tracks threshold openSeconds)
    (hthreshold : 1 ≤ threshold) (operation : Operation) :
    (trace.step operation).Tracks threshold openSeconds := by
  obtain ⟨hsettings, hfailures, hopen, hopenedAt, hprobe, hclosed⟩ := h
  cases operation with
  | attempt =>
    rcases attempt_cases trace.breaker trace.now with
      ⟨hnone, hasked⟩ | ⟨opened, hsome, -, hhalf, hasked⟩ | ⟨opened, hsome, -, hasked⟩
    · simp only [Trace.step, hasked]
      refine ⟨hsettings, hfailures, hopen, hopenedAt, ?_, hclosed⟩
      intro hne
      exact absurd hnone hne
    · -- The probe is the first attempt granted since the failure that opened the breaker.
      simp only [Trace.step, hasked]
      refine ⟨hsettings, hfailures, hopen, hopenedAt, ?_, ?_⟩
      · intro hne
        simp [grantsSinceFailure, hprobe hne, hhalf]
      · intro hnone
        exact absurd hnone (by simp [hsome])
    · simp only [Trace.step, hasked]
      exact ⟨hsettings, hfailures, hopen, hopenedAt, hprobe, hclosed⟩
  | succeed =>
    refine ⟨hsettings, rfl, ?_, ?_, ?_, ?_⟩
    · constructor
      · intro hne
        exact absurd rfl hne
      · intro hreached
        have hzero : threshold ≤ 0 := hreached
        omega
    · intro opened hsome
      exact absurd hsome (by simp [Trace.step, Breaker.succeed])
    · intro hne
      exact absurd rfl hne
    · intro _
      rfl
  | fail =>
    obtain ⟨rfl, rfl⟩ := hsettings
    by_cases hreached : trace.breaker.threshold ≤ (trace.breaker.failures + 1 : Nat)
    · -- The failure opens the breaker, anew if it was open, and nothing is granted since.
      simp only [Trace.step, Breaker.fail, if_pos hreached]
      refine ⟨⟨rfl, rfl⟩, ?_, ?_, ?_, ?_, ?_⟩
      · rw [failuresSinceSuccess, hfailures]
      · rw [failuresSinceSuccess, ← hfailures]
        simpa using hreached
      · intro opened hsome
        rw [latestFailure?, ← hsome]
      · intro _
        rfl
      · intro hnone
        exact absurd hnone (by simp)
    · -- Below the threshold the breaker was closed before, and it stays closed.
      have hnone : trace.breaker.openedAt = none := by
        by_contra hne
        have hbefore := hopen.1 hne
        omega
      simp only [Trace.step, Breaker.fail, if_neg hreached]
      refine ⟨⟨rfl, rfl⟩, ?_, ?_, ?_, ?_, hclosed⟩
      · rw [failuresSinceSuccess, hfailures]
      · rw [failuresSinceSuccess, ← hfailures]
        constructor
        · intro hne
          exact absurd hnone hne
        · intro h
          exact absurd h hreached
      · intro opened hsome
        rw [hnone] at hsome
        exact absurd hsome (by simp)
      · intro hne
        exact absurd hnone hne
  | pass now => exact ⟨hsettings, hfailures, hopen, hopenedAt, hprobe, hclosed⟩

theorem Trace.Tracks.run {trace : Trace} (h : trace.Tracks threshold openSeconds)
    (hthreshold : 1 ≤ threshold) (operations : List Operation) :
    (trace.run operations).Tracks threshold openSeconds := by
  induction operations generalizing trace with
  | nil => exact h
  | cons operation operations ih => exact ih (h.step hthreshold operation)

/-! ## The law -/

/-- The fields of a breaker, and what it grants, by its past. -/
structure Trace.Lawful (threshold : Int) (openSeconds : Float) (trace : Trace) : Prop where
  failures : trace.breaker.failures = failuresSinceSuccess trace.past
  /-- The breaker is open when the failures since the last success have reached the threshold. -/
  isOpen : trace.breaker.openedAt.isSome ↔ threshold ≤ failuresSinceSuccess trace.past
  /-- It has been open since the latest failure. -/
  openedAt : trace.breaker.openedAt.isSome → trace.breaker.openedAt = latestFailure? trace.past
  halfOpen : trace.breaker.halfOpen = true ↔
    trace.breaker.openedAt.isSome ∧ 0 < grantsSinceFailure trace.past
  /-- An attempt that is asked for now is granted by a closed breaker, or as the first one since the
  latest failure when that is long enough ago. -/
  granted : (trace.breaker.attempt trace.now).1 = true ↔
    trace.breaker.openedAt = none ∨ ∃ opened, trace.breaker.openedAt = some opened ∧
      trace.now - opened ≥ openSeconds ∧ grantsSinceFailure trace.past = 0
  /-- An open breaker grants at most one attempt from one outcome to the next. -/
  single : trace.breaker.openedAt.isSome → grantsSinceOutcome trace.past ≤ 1

theorem Trace.Tracks.lawful {trace : Trace} (h : trace.Tracks threshold openSeconds)
    (hthreshold : 1 ≤ threshold) : trace.Lawful threshold openSeconds := by
  obtain ⟨hsettings, hfailures, hopen, hopenedAt, hprobe, hclosed⟩ := h
  refine ⟨hfailures, ?_, ?_, ?_, ?_, ?_⟩
  · rw [Option.isSome_iff_ne_none]
    exact hopen
  · intro hsome
    obtain ⟨opened, hopened⟩ := Option.isSome_iff_exists.1 hsome
    rw [hopened, hopenedAt opened hopened]
  · constructor
    · intro hhalf
      have hne : trace.breaker.openedAt ≠ none := by
        intro hnone
        rw [hclosed hnone] at hhalf
        exact absurd hhalf (by simp)
      refine ⟨Option.isSome_iff_ne_none.2 hne, ?_⟩
      rw [hprobe hne, hhalf]
      exact Nat.one_pos
    · rintro ⟨hsome, hpos⟩
      rw [hprobe (Option.isSome_iff_ne_none.1 hsome)] at hpos
      cases hhalf : trace.breaker.halfOpen with
      | true => rfl
      | false =>
        rw [hhalf] at hpos
        exact absurd hpos (Nat.lt_irrefl 0)
  · rcases attempt_cases trace.breaker trace.now with
      ⟨hnone, hasked⟩ | ⟨opened, hsome, hdue, hhalf, hasked⟩ | ⟨opened, hsome, hnot, hasked⟩
    · simp [hasked, hnone]
    · rw [hsettings.2] at hdue
      have hgrants := hprobe (by simp [hsome])
      simp [hasked, hsome, hdue, hgrants, hhalf]
    · rw [hsettings.2] at hnot
      have hgrants := hprobe (by simp [hsome])
      simpa [hasked, hsome, hgrants] using hnot
  · intro hsome
    have hreached := hopen.1 (Option.isSome_iff_ne_none.1 hsome)
    have hpos : 0 < failuresSinceSuccess trace.past := by omega
    rw [grantsSinceOutcome_eq hpos, hprobe (Option.isSome_iff_ne_none.1 hsome)]
    exact Bool.toNat_le trace.breaker.halfOpen

/-- Whatever is done with a fresh breaker, and whatever its clock shows in between: its fields, and
the attempts that it grants, are what the past says. -/
theorem run_lawful (operations : List Operation) (now : Float) (hthreshold : 1 ≤ threshold) :
    ((Trace.fresh threshold openSeconds now).run operations).Lawful threshold openSeconds :=
  ((Trace.tracks_fresh hthreshold now).run hthreshold operations).lawful hthreshold

end Traces

/-- Two failures open the breaker, the probe fails as well, and a success comes late. -/
def sampleOperations : List Operation :=
  [.fail, .attempt, .fail, .attempt, .pass 900.0, .attempt, .attempt, .fail, .pass 1900.0, .succeed,
    .attempt]

theorem run_lawful_probes :
    (1 : Int) ≤ 2 ∧
      ((Trace.fresh 2 900.0 0.0).run sampleOperations).past =
        [.granted, .succeeded, .failed 900.0, .refused, .granted, .refused, .failed 0.0, .granted,
          .failed 0.0] ∧
      ((Trace.fresh 2 900.0 0.0).run sampleOperations).Lawful 2 900.0 :=
  ⟨by decide, by rfl, run_lawful sampleOperations 0.0 (by decide)⟩

end Breaker

end AdvisoryFeed.Http
