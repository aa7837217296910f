import AdvisoryFeed.Keyed
import Mathlib.Data.List.Dedup
import Mathlib.Data.List.Induction

/-!
# Keyed lists of many items

Items that are put into a keyed list one after the other leave one item for each key. The keys stand
in the order in which they came first (`map_putAll`), and under each key it is the item that came
last (`mem_putAll_iff`).
-/

namespace AdvisoryFeed

section LastBy

variable {α κ : Type} {key : α → κ}

/-- The item is in the list, and no item behind it has its key. -/
def IsLastBy (key : α → κ) (items : List α) (x : α) : Prop :=
  ∃ before after, items = before ++ x :: after ∧ ∀ later ∈ after, key later ≠ key x

theorem IsLastBy.mem {items : List α} {x : α} (h : IsLastBy key items x) : x ∈ items := by
  obtain ⟨before, after, rfl, -⟩ := h
  simp

/-- A further item is the last with its key, and takes that place from those with the same key. -/
theorem isLastBy_concat_iff {items : List α} {x y : α} :
    IsLastBy key (items ++ [x]) y ↔ y = x ∨ IsLastBy key items y ∧ key y ≠ key x := by
  constructor
  · rintro ⟨before, after, hitems, hafter⟩
    rcases List.eq_nil_or_concat after with rfl | ⟨front, last, rfl⟩
    · have hlast : [x] = [y] := List.append_inj_right' hitems rfl
      exact Or.inl (List.singleton_inj.1 hlast).symm
    · rw [List.concat_eq_append, ← List.cons_append, ← List.append_assoc] at hitems
      obtain ⟨hfront, hlast⟩ := List.append_inj' hitems rfl
      obtain rfl := List.singleton_inj.1 hlast
      rw [List.concat_eq_append, List.forall_mem_append] at hafter
      exact Or.inr ⟨⟨before, front, hfront, hafter.1⟩, (hafter.2 x (by simp)).symm⟩
  · rintro (rfl | ⟨⟨before, after, rfl, hafter⟩, hne⟩)
    · exact ⟨items, [], rfl, by simp⟩
    · refine ⟨before, after ++ [x], by simp, ?_⟩
      intro later hlater
      rcases List.mem_append.1 hlater with hlater | hlater
      · exact hafter later hlater
      · rw [List.mem_singleton.1 hlater]
        exact hne.symm

/-- Where items with one key are the same, each item is the last one with its key. -/
theorem isLastBy_iff_mem {items : List α} {y : α}
    (h : ∀ x ∈ items, ∀ other ∈ items, key x = key other → x = other) :
    IsLastBy key items y ↔ y ∈ items := by
  induction items using List.reverseRecOn with
  | nil => exact ⟨fun hlast => hlast.mem, fun hmem => absurd hmem List.not_mem_nil⟩
  | append_singleton items x ih =>
    have hbefore : ∀ z ∈ items, ∀ other ∈ items, key z = key other → z = other := by
      intro z hz other hother
      exact h z (List.mem_append_left _ hz) other (List.mem_append_left _ hother)
    rw [isLastBy_concat_iff, ih hbefore, List.mem_append, List.mem_singleton, or_comm]
    constructor
    · rintro (⟨hmem, -⟩ | hlast)
      · exact Or.inl hmem
      · exact Or.inr hlast
    · rintro (hmem | hlast)
      · by_cases hkey : key y = key x
        · exact Or.inr (h y (List.mem_append_left _ hmem) x (by simp) hkey)
        · exact Or.inl ⟨hmem, hkey⟩
      · exact Or.inr hlast

/-- Keys that tell the same items apart have the same last items. -/
theorem isLastBy_congr {κ' : Type} {key' : α → κ'} {items : List α} {y : α}
    (h : ∀ x ∈ items, ∀ other ∈ items, key x = key other ↔ key' x = key' other) :
    IsLastBy key items y ↔ IsLastBy key' items y := by
  refine exists_congr fun before => exists_congr fun after => and_congr_right ?_
  rintro rfl
  refine forall₂_congr fun later hlater => not_congr (h later ?_ y (by simp))
  exact List.mem_append_right _ (List.mem_cons_of_mem y hlater)

/-- The last item with a key among images is the image of the last item with that key. -/
theorem isLastBy_map_iff {β : Type} {f : β → α} {items : List β} {y : α} :
    IsLastBy key (items.map f) y ↔ ∃ x, IsLastBy (fun x => key (f x)) items x ∧ y = f x := by
  constructor
  · rintro ⟨before, after, hitems, hafter⟩
    obtain ⟨front, rest, rfl, rfl, hrest⟩ := List.map_eq_append_iff.1 hitems
    obtain ⟨x, back, rfl, rfl, rfl⟩ := List.map_eq_cons_iff.1 hrest
    exact ⟨x, ⟨front, back, rfl, fun later hlater => hafter _ (List.mem_map_of_mem hlater)⟩, rfl⟩
  · rintro ⟨x, ⟨before, after, rfl, hafter⟩, rfl⟩
    refine ⟨before.map f, after.map f, by simp, ?_⟩
    intro image himage
    obtain ⟨later, hlater, rfl⟩ := List.mem_map.1 himage
    exact hafter later hlater

end LastBy

section PutAll

variable {α κ : Type} [DecidableEq κ] {key : α → κ}

/-- Puts items into a keyed list, one after the other. -/
def putAll (key : α → κ) (items : List α) : List α :=
  items.foldl (fun put x => putBy key x put) []

theorem putAll_concat (items : List α) (x : α) :
    putAll key (items ++ [x]) = putBy key x (putAll key items) := by
  rw [putAll, List.foldl_append]
  rfl

/-- Each key stands where it came first. -/
theorem map_putAll [BEq κ] [LawfulBEq κ] (items : List α) :
    (putAll key items).map key = (items.map key).eraseDups := by
  induction items using List.reverseRecOn with
  | nil => rfl
  | append_singleton items x ih =>
    rw [putAll_concat, map_putBy, ih, List.map_append, List.eraseDups_append]
    by_cases hmem : key x ∈ items.map key
    · rw [if_pos (List.mem_eraseDups.2 hmem)]
      simp [List.removeAll, List.mem_map.1 hmem]
    · rw [if_neg fun hput => hmem (List.mem_eraseDups.1 hput)]
      rw [List.mem_map] at hmem
      simp [List.removeAll, hmem, List.eraseDups_cons]

theorem nodup_putAll (items : List α) : ((putAll key items).map key).Nodup := by
  induction items using List.reverseRecOn with
  | nil => exact List.nodup_nil
  | append_singleton items x ih =>
    rw [putAll_concat]
    exact nodup_putBy ih x

/-- There are as many items as there are different keys. -/
theorem length_putAll (items : List α) :
    (putAll key items).length = (items.map key).dedup.length := by
  have hkeys : ((putAll key items).map key).Perm (items.map key).dedup := by
    rw [List.perm_ext_iff_of_nodup (nodup_putAll items) (List.nodup_dedup _)]
    intro k
    rw [map_putAll, List.mem_eraseDups, List.mem_dedup]
  rw [← hkeys.length_eq, List.length_map]

theorem length_putAll_le (items : List α) : (putAll key items).length ≤ items.length := by
  rw [length_putAll, ← List.length_map key]
  exact (List.dedup_sublist _).length_le

/-- No item is lost exactly when no two have the same key. -/
theorem length_putAll_eq_iff {items : List α} :
    (putAll key items).length = items.length ↔ (items.map key).Nodup := by
  rw [length_putAll, ← List.length_map key, ← List.dedup_eq_self]
  exact ⟨(List.dedup_sublist _).eq_of_length, congrArg List.length⟩

/-- Putting an item leaves those with other keys. -/
theorem mem_putBy_iff {items : List α} (h : (items.map key).Nodup) (x y : α) :
    y ∈ putBy key x items ↔ y = x ∨ y ∈ items ∧ key y ≠ key x := by
  induction items with
  | nil => simp [putBy]
  | cons z items ih =>
    rw [List.map_cons, List.nodup_cons] at h
    rw [putBy]
    split
    · next hsame =>
      -- The keys are once each, so nothing behind the item that is replaced has its key.
      have hothers : ∀ y ∈ items, key y ≠ key x := by
        intro y hy heq
        exact h.1 (List.mem_map.2 ⟨y, hy, heq.trans hsame.symm⟩)
      rw [List.mem_cons, List.mem_cons]
      constructor
      · rintro (rfl | hy)
        · exact Or.inl rfl
        · exact Or.inr ⟨Or.inr hy, hothers y hy⟩
      · rintro (rfl | ⟨rfl | hy, hne⟩)
        · exact Or.inl rfl
        · exact absurd hsame hne
        · exact Or.inr hy
    · next hother =>
      rw [List.mem_cons, ih h.2, List.mem_cons]
      constructor
      · rintro (rfl | rfl | ⟨hy, hne⟩)
        · exact Or.inr ⟨Or.inl rfl, hother⟩
        · exact Or.inl rfl
        · exact Or.inr ⟨Or.inr hy, hne⟩
      · rintro (rfl | ⟨rfl | hy, hne⟩)
        · exact Or.inr (Or.inl rfl)
        · exact Or.inl rfl
        · exact Or.inr (Or.inr ⟨hy, hne⟩)

/-- Under each key is the item that came last. -/
theorem mem_putAll_iff {items : List α} {y : α} : y ∈ putAll key items ↔ IsLastBy key items y := by
  induction items using List.reverseRecOn with
  | nil =>
    constructor
    · intro h
      exact absurd h List.not_mem_nil
    · rintro ⟨before, after, hitems, -⟩
      exact absurd hitems (by simp)
  | append_singleton items x ih =>
    rw [putAll_concat, mem_putBy_iff (nodup_putAll items), isLastBy_concat_iff, ih]

end PutAll

end AdvisoryFeed
