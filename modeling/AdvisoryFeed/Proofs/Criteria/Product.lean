import AdvisoryFeed.Proofs.Criteria.Evaluation

/-!
# Products of groups

The parts of a node are its children and its own leaves, and each of them has a group of
possibilities. A conjunction combines the groups to their product, which may be taken in pieces
(`combine_conj_append`) because extending is associative and the single empty possibility is neutral
for it. Whether or not a node has children and leaves, its possibilities are combined from the
groups of its children and the group of its leaves (`Criteria.possibilities_node`).
-/

namespace AdvisoryFeed

/-! ## Extending -/

section Extending

theorem mem_extendBy {partials group : List Possibility} {possibility : Possibility} :
    possibility ∈ extendBy partials group ↔
      ∃ done ∈ partials, ∃ more ∈ group, possibility = done ++ more := by
  rw [extendBy, List.mem_flatMap]
  simp only [List.mem_map, eq_comm]

/-- The empty possibility adds nothing to what follows it. -/
theorem extendBy_empty_left (group : List Possibility) : extendBy [[]] group = group := by
  simp [extendBy]

theorem extendBy_empty_right (partials : List Possibility) :
    extendBy partials [[]] = partials := by
  simp [extendBy]

/-- It does not matter which extension is made first. -/
theorem extendBy_assoc (first second third : List Possibility) :
    extendBy (extendBy first second) third = extendBy first (extendBy second third) := by
  simp only [extendBy, List.flatMap_assoc, List.flatMap_map, List.map_flatMap, List.map_map,
    Function.comp_def, List.append_assoc]

/-- A product may be started with its first group. -/
theorem combine_conj_eq_foldl (group : List Possibility) (groups : List (List Possibility)) :
    combine (some .conj) (group :: groups) = groups.foldl extendBy group := by
  rw [combine, List.foldl_cons, extendBy_empty_left]

/-- Extending by group after group is extending by the product of the groups. -/
theorem foldl_extendBy (groups : List (List Possibility)) :
    ∀ partials : List Possibility, groups.foldl extendBy partials =
      extendBy partials (combine (some .conj) groups) := by
  induction groups with
  | nil =>
    intro partials
    exact (extendBy_empty_right partials).symm
  | cons group groups ih =>
    intro partials
    rw [List.foldl_cons, ih, combine_conj_eq_foldl, ih group, extendBy_assoc]

/-- The first group of a product is extended by the product of the others. -/
theorem combine_conj_cons (group : List Possibility) (groups : List (List Possibility)) :
    combine (some .conj) (group :: groups) = extendBy group (combine (some .conj) groups) := by
  rw [combine_conj_eq_foldl, foldl_extendBy]

end Extending

/-! ## Combining -/

section Combining

/-- The product of groups in two pieces is the product of the pieces. -/
theorem combine_conj_append (front back : List (List Possibility)) :
    combine (some .conj) (front ++ back) =
      extendBy (combine (some .conj) front) (combine (some .conj) back) := by
  change (front ++ back).foldl extendBy [[]] = _
  rw [List.foldl_append, foldl_extendBy back]
  rfl

theorem combine_conj_singleton (group : List Possibility) :
    combine (some .conj) [group] = group :=
  extendBy_empty_left group

/-- A product with a group in the middle extends what is before the group by its members, and these
by what is behind it. -/
theorem mem_combine_conj_middle {front back : List (List Possibility)} {group : List Possibility}
    {possibility : Possibility} (h : possibility ∈ combine (some .conj) (front ++ group :: back)) :
    ∃ before ∈ combine (some .conj) front, ∃ member ∈ group, ∃ after ∈ combine (some .conj) back,
      possibility = before ++ (member ++ after) := by
  rw [combine_conj_append, combine_conj_cons] at h
  obtain ⟨before, hbefore, rest, hrest, rfl⟩ := mem_extendBy.1 h
  obtain ⟨member, hmember, after, hafter, rfl⟩ := mem_extendBy.1 hrest
  exact ⟨before, hbefore, member, hmember, after, hafter, rfl⟩

/-- The leaves of a product come from members of its groups. -/
theorem exists_member_of_mem_conj {groups : List (List Possibility)} {leaf : String} :
    ∀ {possibility : Possibility}, possibility ∈ combine (some .conj) groups →
      leaf ∈ possibility → ∃ group ∈ groups, ∃ member ∈ group, leaf ∈ member := by
  induction groups with
  | nil =>
    intro possibility h hleaf
    obtain rfl : possibility = [] := List.mem_singleton.1 h
    exact absurd hleaf List.not_mem_nil
  | cons group groups ih =>
    intro possibility h hleaf
    have hproduct : possibility ∈ combine (some .conj) ([] ++ group :: groups) := h
    obtain ⟨before, hbefore, member, hmember, after, hafter, rfl⟩ :=
      mem_combine_conj_middle hproduct
    obtain rfl : before = [] := List.mem_singleton.1 hbefore
    rcases List.mem_append.1 hleaf with hleaf | hleaf
    · exact absurd hleaf List.not_mem_nil
    · rcases List.mem_append.1 hleaf with hleaf | hleaf
      · exact ⟨group, List.mem_cons_self, member, hmember, hleaf⟩
      · obtain ⟨other, hother, found⟩ := ih hafter hleaf
        exact ⟨other, List.mem_cons_of_mem group hother, found⟩

/-- However groups are combined, the leaves come from their members. -/
theorem exists_member_of_mem_combine {operator : Option Operator}
    {groups : List (List Possibility)} {possibility : Possibility} {leaf : String}
    (h : possibility ∈ combine operator groups) (hleaf : leaf ∈ possibility) :
    ∃ group ∈ groups, ∃ member ∈ group, leaf ∈ member := by
  cases operator with
  | none => exact absurd h List.not_mem_nil
  | some operator =>
    cases operator with
    | conj => exact exists_member_of_mem_conj h hleaf
    | disj =>
      obtain ⟨group, hgroup, hmember⟩ := List.mem_flatten.1 h
      exact ⟨group, hgroup, possibility, hmember, hleaf⟩

end Combining

/-! ## Nodes -/

section Nodes

variable (ignored : List String) (children : List Criteria) (leaves : List String)

/-- The groups of the parts of a node: those of its children, and that of its own leaves. -/
def partGroups (operator : Option Operator) : List (List Possibility) :=
  childGroups ignored children ++ [ownPossibilities ignored operator leaves]

/-- A node without leaves has no group of them, which for a conjunction is as good as the group of
the empty possibility and for a disjunction as good as the empty group. -/
theorem combine_noLeaves (operator : Option Operator) (groups : List (List Possibility)) :
    combine operator (groups ++ [ownPossibilities ignored operator []]) =
      combine operator groups := by
  cases operator with
  | none => rfl
  | some operator =>
    cases operator with
    | conj =>
      rw [combine_conj_append, combine_conj_singleton]
      exact extendBy_empty_right _
    | disj => simp [combine, ownPossibilities, keep]

/-- The possibilities of a node are combined from the groups of its parts. -/
theorem Criteria.possibilities_node (operator : Option Operator) :
    (Criteria.node operator children leaves).possibilities ignored =
      combine operator (partGroups ignored children leaves operator) := by
  rw [Criteria.possibilities, partGroups]
  cases children with
  | nil =>
    rw [if_pos List.isEmpty_nil, childGroups, List.nil_append]
    cases operator with
    | none => rfl
    | some operator =>
      cases operator with
      | conj => exact (combine_conj_singleton _).symm
      | disj => simp [combine]
  | cons child children =>
    rw [if_neg (by simp)]
    cases leaves with
    | nil => rw [if_pos List.isEmpty_nil, List.append_nil, combine_noLeaves]
    | cons leaf leaves => rw [if_neg (by simp)]

/-- The possibilities of alternatives are those of each of them, one after the other. -/
theorem Criteria.possibilities_alternatives :
    (Criteria.node (some .disj) children []).possibilities ignored =
      children.flatMap (·.possibilities ignored) := by
  rw [Criteria.possibilities_node, partGroups, combine_noLeaves, childGroups_eq_map]
  exact List.flatMap_def.symm

end Nodes

end AdvisoryFeed
