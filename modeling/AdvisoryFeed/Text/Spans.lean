/-!
# Sets of characters given by spans

A property of characters that a standard lists is kept as the spans of code points that have it.
`Spans.has` decides membership.
-/

namespace AdvisoryFeed.Text

/-- A set of code points as its closed spans, each from its first to its last member. -/
abbrev Spans := List (Nat × Nat)

/-- Membership of a character. -/
def Spans.has (spans : Spans) (c : Char) : Bool :=
  spans.any fun span => span.1 ≤ c.toNat && c.toNat ≤ span.2

/-- A character is in the set when one of the spans holds it. -/
theorem Spans.has_iff (spans : Spans) (c : Char) :
    spans.has c = true ↔ ∃ span ∈ spans, span.1 ≤ c.toNat ∧ c.toNat ≤ span.2 := by
  simp [Spans.has, List.any_eq_true]

end AdvisoryFeed.Text
