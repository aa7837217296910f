import AdvisoryFeed.Criteria
import Mathlib.Data.List.Infix
import Mathlib.Logic.Basic

/-!
# Truth of conditions

A condition is evaluated under a truth assignment to comments: a node joined by `conj` needs all of
its parts, one joined by `disj` needs one of them, and a node without an operator never holds
(`Criteria.eval`). `Criteria.unmarked` is the condition without the leaves that bear an ignored
marker. Expanding a condition keeps its truth value: under any truth assignment some possibility has
all its leaves true, that is, the possibilities are `Fulfilled`, exactly when the unmarked condition
evaluates to true.

Dropping leaves is not neutral for a disjunction: when no leaf is left of it, it is false, whereas a
conjunction of nothing is true.
-/

namespace AdvisoryFeed

open AdvisoryFeed.Text

/-- Induction over conditions: a property holds of every condition if it passes from the children of
a node to the node. -/
@[elab_as_elim, induction_eliminator]
theorem Criteria.inductionOn {motive : Criteria → Prop} (criteria : Criteria)
    (node : ∀ operator children leaves, (∀ child ∈ children, motive child) →
      motive (.node operator children leaves)) : motive criteria :=
  match criteria with
  | .node operator children leaves =>
    node operator children leaves fun child hmem =>
      have := List.sizeOf_lt_of_mem hmem
      inductionOn child node
termination_by sizeOf criteria
decreasing_by
  simp only [Criteria.node.sizeOf_spec]
  omega

/-! ## Evaluation -/

section Evaluation

variable (truth : String → Bool)

mutual

/-- The truth value of a condition under a truth assignment to comments. -/
def Criteria.eval : Criteria → Bool
  | .node (some .conj) children leaves => evalAll children && leaves.all truth
  | .node (some .disj) children leaves => evalAny children || leaves.any truth
  | .node none _ _ => false

/-- All of several conditions are true. -/
def evalAll : List Criteria → Bool
  | [] => true
  | child :: children => child.eval && evalAll children

/-- One of several conditions is true. -/
def evalAny : List Criteria → Bool
  | [] => false
  | child :: children => child.eval || evalAny children

end

theorem evalAll_eq_true_iff (children : List Criteria) :
    evalAll truth children = true ↔ ∀ child ∈ children, child.eval truth = true := by
  induction children with
  | nil => simp [evalAll]
  | cons child children ih => simp [evalAll, ih]

theorem evalAny_eq_true_iff (children : List Criteria) :
    evalAny truth children = true ↔ ∃ child ∈ children, child.eval truth = true := by
  induction children with
  | nil => simp [evalAny]
  | cons child children ih => simp [evalAny, ih]

/-- A conjunction is true when all its children and leaves are. -/
theorem Criteria.eval_conj_iff (children : List Criteria) (leaves : List String) :
    (Criteria.node (some .conj) children leaves).eval truth = true ↔
      (∀ child ∈ children, child.eval truth = true) ∧ ∀ leaf ∈ leaves, truth leaf = true := by
  rw [Criteria.eval, Bool.and_eq_true, evalAll_eq_true_iff, List.all_eq_true]

/-- A disjunction is true when one of its children or leaves is. -/
theorem Criteria.eval_disj_iff (children : List Criteria) (leaves : List String) :
    (Criteria.node (some .disj) children leaves).eval truth = true ↔
      (∃ child ∈ children, child.eval truth = true) ∨ ∃ leaf ∈ leaves, truth leaf = true := by
  rw [Criteria.eval, Bool.or_eq_true, evalAny_eq_true_iff, List.any_eq_true]

end Evaluation

/-! ## Marked leaves -/

section Marked

variable (ignored : List String)

/-- The leaves of which no stretch is an ignored marker. -/
def unmarkedLeaves (leaves : List String) : List String :=
  leaves.filter fun leaf => ∀ marker ∈ ignored, ¬ marker.toList <:+: leaf.toList

mutual

/-- The condition without the leaves that bear an ignored marker. -/
def Criteria.unmarked : Criteria → Criteria
  | .node operator children leaves =>
    .node operator (unmarkedAll children) (unmarkedLeaves ignored leaves)

/-- Several conditions without the leaves that bear an ignored marker. -/
def unmarkedAll : List Criteria → List Criteria
  | [] => []
  | child :: children => child.unmarked :: unmarkedAll children

end

theorem unmarkedAll_eq_map (children : List Criteria) :
    unmarkedAll ignored children = children.map (·.unmarked ignored) := by
  induction children with
  | nil => rfl
  | cons child children ih => simp [unmarkedAll, ih]

/-- The leaves that are kept are those without a marker. -/
theorem keep_eq_unmarkedLeaves (leaves : List String) :
    keep ignored leaves = unmarkedLeaves ignored leaves := by
  rw [keep, unmarkedLeaves]
  refine List.filter_congr fun leaf _ => ?_
  rw [Bool.eq_iff_iff, Bool.not_eq_true', decide_eq_true_iff, bearsMarker, List.any_eq_false]
  simp only [contains_iff_isInfix]

end Marked

/-! ## Groups of possibilities -/

section Groups

variable (truth : String → Bool)

/-- Some possibility of a group has all its leaves true. -/
def Fulfilled (group : List Possibility) : Prop :=
  ∃ possibility ∈ group, ∀ leaf ∈ possibility, truth leaf = true

theorem fulfilled_singleton (possibility : Possibility) :
    Fulfilled truth [possibility] ↔ ∀ leaf ∈ possibility, truth leaf = true := by
  simp [Fulfilled]

theorem not_fulfilled_nil : ¬ Fulfilled truth [] := by
  rintro ⟨possibility, hmem, -⟩
  exact absurd hmem List.not_mem_nil

/-- A group extended by another one is fulfilled when both are. -/
theorem fulfilled_extendBy (partials group : List Possibility) :
    Fulfilled truth (extendBy partials group) ↔
      Fulfilled truth partials ∧ Fulfilled truth group := by
  rw [extendBy]
  constructor
  · rintro ⟨possibility, hmem, htrue⟩
    obtain ⟨done, hdone, hmem⟩ := List.mem_flatMap.1 hmem
    obtain ⟨more, hmore, rfl⟩ := List.mem_map.1 hmem
    rw [List.forall_mem_append] at htrue
    exact ⟨⟨done, hdone, htrue.1⟩, ⟨more, hmore, htrue.2⟩⟩
  · rintro ⟨⟨done, hdone, hdoneTrue⟩, ⟨more, hmore, hmoreTrue⟩⟩
    refine ⟨done ++ more, ?_, List.forall_mem_append.2 ⟨hdoneTrue, hmoreTrue⟩⟩
    exact List.mem_flatMap.2 ⟨done, hdone, List.mem_map.2 ⟨more, hmore, rfl⟩⟩

/-- The product of groups is fulfilled when all of them are. The induction is on the groups, for any
partial possibilities that the fold has made so far. -/
theorem fulfilled_foldl_extendBy (groups : List (List Possibility)) :
    ∀ partials : List Possibility, Fulfilled truth (groups.foldl extendBy partials) ↔
      Fulfilled truth partials ∧ ∀ group ∈ groups, Fulfilled truth group := by
  induction groups with
  | nil => simp
  | cons group groups ih =>
    intro partials
    rw [List.foldl_cons, ih, fulfilled_extendBy, List.forall_mem_cons, and_assoc]

/-- Groups one after the other are fulfilled when one of them is. -/
theorem fulfilled_flatten (groups : List (List Possibility)) :
    Fulfilled truth groups.flatten ↔ ∃ group ∈ groups, Fulfilled truth group := by
  constructor
  · rintro ⟨possibility, hmem, htrue⟩
    obtain ⟨group, hgroup, hmem⟩ := List.mem_flatten.1 hmem
    exact ⟨group, hgroup, possibility, hmem, htrue⟩
  · rintro ⟨group, hgroup, possibility, hmem, htrue⟩
    exact ⟨possibility, List.mem_flatten.2 ⟨group, hgroup, hmem⟩, htrue⟩

theorem fulfilled_combine_conj (groups : List (List Possibility)) :
    Fulfilled truth (combine (some .conj) groups) ↔ ∀ group ∈ groups, Fulfilled truth group := by
  rw [combine, fulfilled_foldl_extendBy, fulfilled_singleton]
  simp

variable (ignored : List String)

theorem fulfilled_own_conj (leaves : List String) :
    Fulfilled truth (ownPossibilities ignored (some .conj) leaves) ↔
      ∀ leaf ∈ unmarkedLeaves ignored leaves, truth leaf = true := by
  rw [ownPossibilities, fulfilled_singleton, keep_eq_unmarkedLeaves]

theorem fulfilled_own_disj (leaves : List String) :
    Fulfilled truth (ownPossibilities ignored (some .disj) leaves) ↔
      ∃ leaf ∈ unmarkedLeaves ignored leaves, truth leaf = true := by
  rw [ownPossibilities, keep_eq_unmarkedLeaves, Fulfilled]
  simp only [List.mem_map, exists_exists_and_eq_and, List.mem_singleton, forall_eq]

/-- The own leaves of a node join the groups of its children as one more group. A node without
leaves has no such group, which says the same as the group of no leaves. -/
theorem fulfilled_parts_conj (children : List Criteria) (leaves : List String) :
    (∀ group ∈ childGroups ignored children ++
        (if leaves.isEmpty then [] else [ownPossibilities ignored (some .conj) leaves]),
      Fulfilled truth group) ↔
      (∀ child ∈ children, Fulfilled truth (child.possibilities ignored)) ∧
        ∀ leaf ∈ unmarkedLeaves ignored leaves, truth leaf = true := by
  rw [List.forall_mem_append, childGroups_eq_map, List.forall_mem_map]
  refine and_congr_right fun _ => ?_
  cases leaves with
  | nil => simp [unmarkedLeaves]
  | cons leaf leaves => simp [fulfilled_own_conj]

theorem fulfilled_parts_disj (children : List Criteria) (leaves : List String) :
    (∃ group ∈ childGroups ignored children ++
        (if leaves.isEmpty then [] else [ownPossibilities ignored (some .disj) leaves]),
      Fulfilled truth group) ↔
      (∃ child ∈ children, Fulfilled truth (child.possibilities ignored)) ∨
        ∃ leaf ∈ unmarkedLeaves ignored leaves, truth leaf = true := by
  simp only [List.mem_append, or_and_right, exists_or, childGroups_eq_map, List.mem_map,
    exists_exists_and_eq_and]
  refine or_congr_right ?_
  cases leaves with
  | nil => simp [unmarkedLeaves]
  | cons leaf leaves => simp [fulfilled_own_disj]

end Groups

/-! ## Expansion -/

/-- The possibilities of a node, whether or not it has children, are fulfilled by the parts that its
operator asks for. -/
theorem fulfilled_possibilities_conj (truth : String → Bool) (ignored : List String)
    (children : List Criteria) (leaves : List String) :
    Fulfilled truth ((Criteria.node (some .conj) children leaves).possibilities ignored) ↔
      (∀ child ∈ children, Fulfilled truth (child.possibilities ignored)) ∧
        ∀ leaf ∈ unmarkedLeaves ignored leaves, truth leaf = true := by
  rw [Criteria.possibilities]
  split
  · next hempty =>
    obtain rfl := List.isEmpty_iff.1 hempty
    rw [fulfilled_own_conj]
    simp
  · rw [fulfilled_combine_conj, fulfilled_parts_conj]

theorem fulfilled_possibilities_disj (truth : String → Bool) (ignored : List String)
    (children : List Criteria) (leaves : List String) :
    Fulfilled truth ((Criteria.node (some .disj) children leaves).possibilities ignored) ↔
      (∃ child ∈ children, Fulfilled truth (child.possibilities ignored)) ∨
        ∃ leaf ∈ unmarkedLeaves ignored leaves, truth leaf = true := by
  rw [Criteria.possibilities]
  split
  · next hempty =>
    obtain rfl := List.isEmpty_iff.1 hempty
    rw [fulfilled_own_disj]
    simp
  · rw [combine, fulfilled_flatten, fulfilled_parts_disj]

/-- A node without an operator has no possibility. -/
theorem possibilities_none (ignored : List String) (children : List Criteria)
    (leaves : List String) :
    (Criteria.node none children leaves).possibilities ignored = [] := by
  simp [Criteria.possibilities, ownPossibilities, combine]

/-- Expansion keeps the meaning of a condition: under a truth assignment to comments, some
possibility has all its leaves true exactly when the condition without the marked leaves is true. -/
theorem Criteria.exists_possibility_iff_eval (truth : String → Bool) (ignored : List String)
    (criteria : Criteria) :
    (∃ possibility ∈ criteria.possibilities ignored, ∀ leaf ∈ possibility, truth leaf = true) ↔
      (criteria.unmarked ignored).eval truth = true := by
  change Fulfilled truth (criteria.possibilities ignored) ↔ _
  induction criteria with
  | node operator children leaves ih =>
    rw [Criteria.unmarked, unmarkedAll_eq_map]
    cases operator with
    | none =>
      rw [possibilities_none, Criteria.eval]
      simp [not_fulfilled_nil]
    | some operator =>
      cases operator with
      | conj =>
        rw [fulfilled_possibilities_conj, Criteria.eval_conj_iff, List.forall_mem_map]
        exact and_congr_left fun _ => forall₂_congr ih
      | disj =>
        rw [fulfilled_possibilities_disj, Criteria.eval_disj_iff]
        simp only [List.mem_map, exists_exists_and_eq_and]
        exact or_congr_left (exists_congr fun child => and_congr_right (ih child))

/-- A conjunction without unmarked leaves is true and has the empty possibility, a disjunction
without them is false and has none. -/
example :
    let conj := Criteria.node (some .conj) [] ["a.ksplice1.b"]
    let disj := Criteria.node (some .disj) [] ["a.ksplice1.b"]
    conj.possibilities defaultIgnored = [[]] ∧ disj.possibilities defaultIgnored = [] ∧
      ((conj.unmarked defaultIgnored).eval fun _ => false) = true ∧
      ((disj.unmarked defaultIgnored).eval fun _ => true) = false := by
  decide +kernel

end AdvisoryFeed
