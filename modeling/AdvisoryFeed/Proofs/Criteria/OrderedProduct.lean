import AdvisoryFeed.Proofs.Criteria.Product
import Mathlib.Algebra.BigOperators.Ring.List
import Mathlib.Algebra.Ring.Nat
import Mathlib.Data.List.Lex
import Mathlib.Data.List.Nodup

/-!
# Order of possibilities

The possibilities of a conjunction come in the order of its groups: a member of each group is
chosen, the choices are made in lexicographic order of their places, so that the last group varies
fastest (`IsLexicographic`), and the members of a choice are joined (`chosen`). This fixes the list
of possibilities (`IsLexicographic.unique`), which are as many as the product of the sizes of the
groups (`Criteria.possibilities_lexicographic`). The order matters to whoever lets a later
possibility replace an earlier one.

Dropping leaves while a condition is expanded is the same as expanding the condition without them
(`Criteria.possibilities_unmarked`). A node that loses all of its leaves still has the group of no
leaves, whereas a node that never had any has no such group; both say the same.
-/

namespace AdvisoryFeed

/-! ## Choices -/

section Choices

/-- All choices of one place in each of the groups, from the first to the last in lexicographic
order. -/
structure IsLexicographic (groups : List (List Possibility)) (choices : List (List Nat)) :
    Prop where
  ascending : choices.Pairwise (List.Lex (· < ·))
  mem_iff : ∀ choice, choice ∈ choices ↔
    List.Forall₂ (fun place group => place < group.length) choice groups

/-- The leaves of the members at the places of a choice, group by group. -/
def chosen (groups : List (List Possibility)) (choice : List Nat) : Possibility :=
  (List.zipWith (fun group place => group.getD place []) groups choice).flatten

variable {groups : List (List Possibility)} {choices : List (List Nat)}

theorem isLexicographic_nil : IsLexicographic [] [[]] := by
  refine ⟨List.pairwise_singleton _ _, fun choice => ?_⟩
  rw [List.mem_singleton, List.forall₂_nil_right_iff]

/-- With a further group in front, each of its places goes before the choices in the other groups,
and the places go up. -/
theorem IsLexicographic.cons (h : IsLexicographic groups choices) (group : List Possibility) :
    IsLexicographic (group :: groups)
      ((List.range group.length).flatMap fun place => choices.map (place :: ·)) := by
  constructor
  · rw [List.pairwise_flatMap]
    constructor
    · intro place _
      exact List.pairwise_map.2 (h.ascending.imp List.Lex.cons)
    · refine List.pairwise_lt_range.imp fun hlt => ?_
      intro earlier hearlier later hlater
      obtain ⟨choice, -, rfl⟩ := List.mem_map.1 hearlier
      obtain ⟨choice', -, rfl⟩ := List.mem_map.1 hlater
      exact List.Lex.rel hlt
  · intro choice
    rw [List.forall₂_cons_right_iff]
    simp only [List.mem_flatMap, List.mem_range, List.mem_map, h.mem_iff]
    constructor
    · rintro ⟨place, hplace, rest, hrest, rfl⟩
      exact ⟨place, rest, hplace, hrest, rfl⟩
    · rintro ⟨place, rest, hplace, hrest, rfl⟩
      exact ⟨place, hplace, rest, hrest, rfl⟩

/-- There is only one list of all choices in lexicographic order. -/
theorem IsLexicographic.unique (h : IsLexicographic groups choices) {choices' : List (List Nat)}
    (h' : IsLexicographic groups choices') : choices' = choices := by
  have hperm : choices'.Perm choices := by
    rw [List.perm_ext_iff_of_nodup h'.ascending.nodup h.ascending.nodup]
    intro choice
    rw [h.mem_iff, h'.mem_iff]
  refine hperm.eq_of_pairwise ?_ h'.ascending h.ascending
  intro choice choice' _ _ hlt hgt
  exact absurd hgt (asymm hlt)

/-- Extending the members of a group by all that is chosen from the others is choosing from all. -/
theorem extendBy_map_chosen (group : List Possibility) :
    extendBy group (choices.map (chosen groups)) =
      ((List.range group.length).flatMap fun place => choices.map (place :: ·)).map
        (chosen (group :: groups)) := by
  have hplaces : (List.range group.length).map (fun place => group.getD place []) = group := by
    refine List.ext_getElem (by simp) fun place _ hplace => ?_
    rw [List.getElem_map, List.getElem_range, List.getD_eq_getElem?_getD,
      List.getElem?_eq_getElem hplace, Option.getD_some]
  have hchosen : ∀ place choice, chosen (group :: groups) (place :: choice) =
      group.getD place [] ++ chosen groups choice := fun _ _ => rfl
  conv_lhs => rw [← hplaces]
  simp only [extendBy, List.flatMap_map, List.map_flatMap, List.map_map, Function.comp_def, hchosen]

end Choices

/-! ## Products -/

section Products

/-- The product of groups lists what is chosen from them in lexicographic order. -/
theorem existsUnique_isLexicographic (groups : List (List Possibility)) :
    ∃! choices, IsLexicographic groups choices ∧
      combine (some .conj) groups = choices.map (chosen groups) := by
  induction groups with
  | nil => exact ⟨[[]], ⟨isLexicographic_nil, rfl⟩, fun _ h => isLexicographic_nil.unique h.1⟩
  | cons group groups ih =>
    obtain ⟨choices, ⟨hchoices, hproduct⟩, -⟩ := ih
    refine ⟨_, ⟨hchoices.cons group, ?_⟩, fun _ h => (hchoices.cons group).unique h.1⟩
    rw [combine_conj_cons, hproduct, extendBy_map_chosen]

theorem length_extendBy (partials group : List Possibility) :
    (extendBy partials group).length = partials.length * group.length := by
  rw [extendBy, List.length_flatMap]
  simp only [List.length_map, List.map_const', List.sum_replicate_nat]

theorem length_combine_conj (groups : List (List Possibility)) :
    (combine (some .conj) groups).length = (groups.map List.length).prod := by
  induction groups with
  | nil => rfl
  | cons group groups ih =>
    rw [combine_conj_cons, length_extendBy, ih, List.map_cons, List.prod_cons]

/-- A product is empty as soon as one of the groups is. -/
theorem combine_conj_eq_nil_iff (groups : List (List Possibility)) :
    combine (some .conj) groups = [] ↔ [] ∈ groups := by
  rw [← List.length_eq_zero_iff, length_combine_conj, List.prod_eq_zero_iff, List.mem_map]
  simp only [List.length_eq_zero_iff, exists_eq_right]

end Products

/-! ## Conditions -/

section Conditions

variable (ignored : List String)

/-- What own leaves give is what those without a marker give when no marker is ignored. -/
theorem ownPossibilities_unmarkedLeaves (operator : Option Operator) (leaves : List String) :
    ownPossibilities [] operator (unmarkedLeaves ignored leaves) =
      ownPossibilities ignored operator leaves := by
  have hkeep : keep [] (unmarkedLeaves ignored leaves) = keep ignored leaves := by
    rw [keep_eq_unmarkedLeaves ignored, keep]
    exact List.filter_eq_self.2 fun leaf _ => rfl
  cases operator with
  | none => rfl
  | some operator => cases operator <;> rw [ownPossibilities, ownPossibilities, hkeep]

/-- Expanding a condition drops the leaves that bear an ignored marker, and nothing else: the
possibilities are those of the condition without these leaves. -/
theorem Criteria.possibilities_unmarked (criteria : Criteria) :
    (criteria.unmarked ignored).possibilities [] = criteria.possibilities ignored := by
  induction criteria with
  | node operator children leaves ih =>
    have hchildren : (children.map (·.unmarked ignored)).map (·.possibilities []) =
        children.map (·.possibilities ignored) := by
      rw [List.map_map]
      exact List.map_congr_left ih
    rw [Criteria.unmarked, unmarkedAll_eq_map, Criteria.possibilities_node,
      Criteria.possibilities_node, partGroups, partGroups, childGroups_eq_map, childGroups_eq_map,
      hchildren, ownPossibilities_unmarkedLeaves]

/-- The groups of a conjunction: those of its children, and that of its own leaves when it has
any. -/
def conjGroups (children : List Criteria) (leaves : List String) : List (List Possibility) :=
  children.map (·.possibilities ignored) ++
    if leaves = [] then [] else [ownPossibilities ignored (some .conj) leaves]

/-- A conjunction with children folds its groups, beginning with the first one. -/
theorem Criteria.possibilities_conj (first : Criteria) (others : List Criteria)
    (leaves : List String) :
    (Criteria.node (some .conj) (first :: others) leaves).possibilities ignored =
      combine (some .conj) (conjGroups ignored (first :: others) leaves) := by
  rw [Criteria.possibilities, if_neg (by simp), conjGroups, childGroups_eq_map]
  simp only [List.isEmpty_iff]

/-- Expansion prunes the ignored leaves, and the possibilities of a conjunction with children are
the fold of its groups from the first one on, which lists the joined members of all choices in
lexicographic order, the last group varying fastest. -/
theorem Criteria.possibilities_lexicographic :
    (∀ criteria : Criteria,
      criteria.possibilities ignored = (criteria.unmarked ignored).possibilities []) ∧
    ∀ (first : Criteria) (others : List Criteria) (leaves : List String),
      let groups := conjGroups ignored (first :: others) leaves
      let product := (Criteria.node (some .conj) (first :: others) leaves).possibilities ignored
      product = groups.tail.foldl extendBy (first.possibilities ignored) ∧
      (∃! choices, IsLexicographic groups choices ∧ product = choices.map (chosen groups)) ∧
      product.length = (groups.map List.length).prod ∧
      (product = [] ↔ [] ∈ groups) := by
  refine ⟨fun criteria => (criteria.possibilities_unmarked ignored).symm, ?_⟩
  intro first others leaves groups product
  have hproduct : product = combine (some .conj) groups :=
    Criteria.possibilities_conj ignored first others leaves
  rw [hproduct]
  refine ⟨?_, existsUnique_isLexicographic groups, length_combine_conj groups,
    combine_conj_eq_nil_iff groups⟩
  exact combine_conj_eq_foldl (first.possibilities ignored) groups.tail

/-- The own leaves of a conjunction are its last group, and vary fastest. -/
example :
    (Criteria.node (some .conj) [.node (some .disj) [] ["a", "b"], .node (some .disj) [] ["x", "y"]]
        ["l.ksplice1.", "m"]).possibilities defaultIgnored =
      [["a", "x", "m"], ["a", "y", "m"], ["b", "x", "m"], ["b", "y", "m"]] := by
  decide +kernel

end Conditions

end AdvisoryFeed
