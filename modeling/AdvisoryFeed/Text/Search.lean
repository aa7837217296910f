/-!
# Searching in a text

`splitFirst` cuts a text at the first place where a marker stands; `append_eq_of_splitFirst` says
that the two parts and the marker make up the text. `contains` asks only whether there is such a
place, which is whether the marker is a stretch of the text (`contains_iff_isInfix`).
-/

namespace AdvisoryFeed.Text

/-- The text before the first place where `marker` stands, and the text behind the marker. -/
def splitFirst (marker : List Char) : List Char → Option (List Char × List Char)
  | [] => if marker.isEmpty then some ([], []) else none
  | c :: s =>
    if marker.isPrefixOf (c :: s) then some ([], (c :: s).drop marker.length)
    else (splitFirst marker s).map fun parts => (c :: parts.1, parts.2)

/-- Whether `marker` stands somewhere in the text. -/
def contains (marker s : List Char) : Bool :=
  (splitFirst marker s).isSome

/-- The text before the first `marker`, or all of it when there is none. -/
def before (marker s : List Char) : List Char :=
  match splitFirst marker s with
  | some parts => parts.1
  | none => s

/-- The text behind the last place where the character stands, or all of it when there is none. -/
def afterLast (mark : Char) (s : List Char) : List Char :=
  (s.reverse.takeWhile (· != mark)).reverse

/-- The pieces of a text between the places where the character stands. -/
def splitAll (mark : Char) : List Char → List (List Char)
  | [] => [[]]
  | c :: s =>
    if c = mark then [] :: splitAll mark s
    else match splitAll mark s with
      | [] => [[c]]
      | piece :: pieces => (c :: piece) :: pieces

/-- A marker at the front of a text is followed by the rest. -/
theorem append_drop_of_isPrefixOf {marker s : List Char} (h : marker.isPrefixOf s = true) :
    marker ++ s.drop marker.length = s := by
  obtain ⟨rest, rfl⟩ := List.isPrefixOf_iff_prefix.1 h
  simp

/-- The two parts of a cut text make it up with the marker between them. -/
theorem append_eq_of_splitFirst {marker s head tail : List Char}
    (h : splitFirst marker s = some (head, tail)) : head ++ marker ++ tail = s := by
  induction s generalizing head tail with
  | nil =>
    cases marker with
    | nil => simp_all [splitFirst]
    | cons m ms => simp [splitFirst] at h
  | cons c s ih =>
    unfold splitFirst at h
    split at h
    · next hp =>
      obtain ⟨rfl, rfl⟩ := Prod.mk.inj (Option.some.inj h)
      simpa using append_drop_of_isPrefixOf hp
    · obtain ⟨⟨x, y⟩, hxy, hEq⟩ := Option.map_eq_some_iff.1 h
      obtain ⟨rfl, rfl⟩ := Prod.mk.inj hEq
      simp [← ih hxy]

/-- A text contains a marker exactly when the marker is a stretch of it. -/
theorem contains_iff_isInfix (marker s : List Char) : contains marker s = true ↔ marker <:+: s := by
  unfold contains
  constructor
  · intro h
    obtain ⟨⟨head, tail⟩, hcut⟩ := Option.isSome_iff_exists.1 h
    exact ⟨head, tail, append_eq_of_splitFirst hcut⟩
  · intro h
    induction s with
    | nil =>
      obtain rfl := List.infix_nil.1 h
      rfl
    | cons c s ih =>
      unfold splitFirst
      split
      · rfl
      · next hp =>
        rw [Option.isSome_map]
        rcases List.infix_cons_iff.1 h with hprefix | hinfix
        · exact absurd (List.isPrefixOf_iff_prefix.2 hprefix) hp
        · exact ih hinfix

end AdvisoryFeed.Text
