import AdvisoryFeed.Proofs.Criteria.Product
import Mathlib.Algebra.BigOperators.Group.List.Basic
import Mathlib.Data.Multiset.Bind

/-!
# The order of siblings

A condition says the same when the children of a node, or its leaves, are written in another order
(`Criteria.Reordered`). Its possibilities then come in another order, and so do the leaves in each
of them. Without these orders (`unordered`) they stay what they are
(`Criteria.Reordered.unordered_possibilities`): alternatives are added up, and groups of a
conjunction are joined, and neither depends on which part comes first (`joined_left_comm`).

Whoever does not look at the order of leaves therefore finds the same in both conditions
(`perm_map_of_unordered_eq`).
-/

namespace AdvisoryFeed

/-! ## Reordering -/

/-- The other condition has the same nodes, with the children of each of them in any order and the
leaves of each of them in any order. -/
inductive Criteria.Reordered : Criteria → Criteria → Prop where
  | node {operator : Option Operator} {children inner children' : List Criteria}
      {leaves leaves' : List String} : List.Forall₂ Criteria.Reordered children inner →
      inner.Perm children' → leaves.Perm leaves' →
      Criteria.Reordered (.node operator children leaves) (.node operator children' leaves')

/-- A condition may be left as it is. -/
theorem Criteria.Reordered.refl (criteria : Criteria) : criteria.Reordered criteria := by
  induction criteria with
  | node operator children leaves ih =>
    exact .node (List.forall₂_same.2 ih) (List.Perm.refl _) (List.Perm.refl _)

/-! ## Possibilities without order -/

/-- Possibilities without their order, each of them without the order of its leaves. -/
def unordered (group : List Possibility) : Multiset (Multiset String) :=
  Multiset.ofList (group.map Multiset.ofList)

/-- Each member of a first group together with each one of a second. -/
def joined (first second : Multiset (Multiset String)) : Multiset (Multiset String) :=
  first.bind fun done => second.map fun more => done + more

section Unordered

theorem unordered_cons (possibility : Possibility) (group : List Possibility) :
    unordered (possibility :: group) = Multiset.ofList possibility ::ₘ unordered group := rfl

theorem unordered_append (first second : List Possibility) :
    unordered (first ++ second) = unordered first + unordered second := by
  rw [unordered, List.map_append, ← Multiset.coe_add]
  rfl

theorem unordered_of_perm {first second : List Possibility} (h : first.Perm second) :
    unordered first = unordered second :=
  Multiset.coe_eq_coe.2 (h.map _)

/-- It does not matter which of two groups is joined first. -/
theorem joined_left_comm (first second third : Multiset (Multiset String)) :
    joined first (joined second third) = joined second (joined first third) := by
  simp only [joined, Multiset.map_bind, Multiset.map_map, Function.comp_def]
  rw [Multiset.bind_bind]
  simp only [add_left_comm]

instance : LeftCommutative joined :=
  ⟨joined_left_comm⟩

/-- Extending possibilities joins them. -/
theorem unordered_extendBy (partials group : List Possibility) :
    unordered (extendBy partials group) = joined (unordered partials) (unordered group) := by
  induction partials with
  | nil => rfl
  | cons done partials ih =>
    have hfirst : unordered (group.map fun more => done ++ more) =
        (unordered group).map fun more => Multiset.ofList done + more := by
      simp only [unordered, List.map_map, Multiset.map_coe, Multiset.coe_add, Function.comp_def]
    rw [extendBy, List.flatMap_cons, unordered_append, hfirst, unordered_cons, joined,
      Multiset.cons_bind]
    exact congrArg _ ih

end Unordered

/-! ## Nodes -/

section Nodes

theorem unordered_combine_conj (groups : List (List Possibility)) :
    unordered (combine (some .conj) groups) = (groups.map unordered).foldr joined {0} := by
  induction groups with
  | nil => rfl
  | cons group groups ih =>
    rw [combine_conj_cons, unordered_extendBy, ih]
    rfl

theorem unordered_combine_disj (groups : List (List Possibility)) :
    unordered (combine (some .disj) groups) = (groups.map unordered).sum := by
  rw [combine]
  induction groups with
  | nil => rfl
  | cons group groups ih => rw [List.flatten_cons, unordered_append, ih, List.map_cons, List.sum_cons]

/-- Combining does not depend on the order of the groups, nor on the order in any of them. -/
theorem unordered_combine_congr {operator : Option Operator}
    {groups groups' : List (List Possibility)}
    (h : (groups.map unordered).Perm (groups'.map unordered)) :
    unordered (combine operator groups) = unordered (combine operator groups') := by
  cases operator with
  | none => rfl
  | some operator =>
    cases operator with
    | conj =>
      rw [unordered_combine_conj, unordered_combine_conj]
      exact h.foldr_eq {0}
    | disj =>
      rw [unordered_combine_disj, unordered_combine_disj]
      exact h.sum_eq

/-- What own leaves give does not depend on their order. -/
theorem unordered_own_of_perm {leaves leaves' : List String} (h : leaves.Perm leaves')
    (ignored : List String) (operator : Option Operator) :
    unordered (ownPossibilities ignored operator leaves) =
      unordered (ownPossibilities ignored operator leaves') := by
  have hkept : (keep ignored leaves).Perm (keep ignored leaves') := h.filter _
  cases operator with
  | none => rfl
  | some operator =>
    cases operator with
    | conj =>
      have hsame := Multiset.coe_eq_coe.2 hkept
      rw [ownPossibilities, ownPossibilities, unordered_cons, unordered_cons, hsame]
    | disj => exact unordered_of_perm (hkept.map _)

/-- Items that correspond one by one have the same images, when each has the image of its
partner. -/
theorem map_eq_map_of_forall₂ {α β : Type} {R : α → α → Prop} {f : α → β} {xs ys : List α}
    (h : List.Forall₂ R xs ys) (hf : ∀ x ∈ xs, ∀ y, R x y → f x = f y) : xs.map f = ys.map f := by
  induction h with
  | nil => rfl
  | cons hxy _ ih =>
    rw [List.forall_mem_cons] at hf
    rw [List.map_cons, List.map_cons, hf.1 _ hxy, ih hf.2]

/-- Reordering siblings keeps the possibilities, but for their order and that of their leaves. -/
theorem Criteria.Reordered.unordered_possibilities {criteria other : Criteria}
    (h : criteria.Reordered other) (ignored : List String) :
    unordered (criteria.possibilities ignored) = unordered (other.possibilities ignored) := by
  induction criteria generalizing other with
  | node operator children leaves ih =>
    cases h with
    | node hinner hchildren hleaves =>
      have hgroups := map_eq_map_of_forall₂
        (f := unordered ∘ fun child : Criteria => child.possibilities ignored) hinner
        fun child hchild _ hreordered => ih child hchild hreordered
      rw [Criteria.possibilities_node, Criteria.possibilities_node]
      apply unordered_combine_congr
      -- The groups of the children are permuted, and the own leaves stay the last group.
      simp only [partGroups, childGroups_eq_map, List.map_append, List.map_map, List.map_singleton]
      rw [hgroups, unordered_own_of_perm hleaves]
      exact (hchildren.map _).append_right _

end Nodes

/-! ## Images -/

/-- What is found in possibilities without looking at the order of their leaves is found in all that
are the same but for their order. -/
theorem perm_map_of_unordered_eq {α : Type} {f : Possibility → α} {group other : List Possibility}
    (h : unordered group = unordered other)
    (hf : ∀ possibility ∈ group, ∀ moved, possibility.Perm moved → f possibility = f moved) :
    (group.map f).Perm (other.map f) := by
  induction group generalizing other with
  | nil =>
    have hempty : other.map Multiset.ofList = [] := (Multiset.coe_eq_zero _).1 h.symm
    rw [List.map_eq_nil_iff.1 hempty]
  | cons possibility group ih =>
    have hmem : Multiset.ofList possibility ∈ unordered other := by
      rw [← h, unordered_cons]
      exact Multiset.mem_cons_self _ _
    obtain ⟨moved, hmoved, hsame⟩ := List.mem_map.1 (Multiset.mem_coe.1 hmem)
    -- The same possibility is taken out of both groups.
    have hother := List.perm_cons_erase hmoved
    rw [unordered_of_perm hother, unordered_cons, unordered_cons, hsame,
      Multiset.cons_inj_right] at h
    rw [List.forall_mem_cons] at hf
    have hrest := ih h hf.2
    have hhere := hf.1 moved (Multiset.coe_eq_coe.1 hsame).symm
    rw [List.map_cons, hhere]
    exact (hrest.cons _).trans (hother.map f).symm

end AdvisoryFeed
