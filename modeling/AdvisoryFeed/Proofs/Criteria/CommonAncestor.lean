import AdvisoryFeed.Proofs.Criteria.Product
import Mathlib.Data.List.Nodup
import Mathlib.Data.List.Pairwise

/-!
# Common ancestors of leaves

The leaves of a possibility stand in the condition that was expanded, and none of them bears an
ignored marker (`Criteria.mem_unmarked_of_mem_possibility`). When no two leaves of the condition are
the same comment, a leaf tells where it stands, and two leaves have one lowest common ancestor
(`Criteria.MeetAt.unique`). That of two leaves of one possibility is joined by `conj`
(`Criteria.exists_meet_conj`): alternatives of a disjunction are never mixed.
-/

namespace AdvisoryFeed

/-! ## Leaves -/

mutual

/-- All leaves of a condition, those of its children before its own. -/
def Criteria.allLeaves : Criteria → List String
  | .node _ children leaves => allLeavesAmong children ++ leaves

/-- All leaves of several conditions. -/
def allLeavesAmong : List Criteria → List String
  | [] => []
  | child :: children => child.allLeaves ++ allLeavesAmong children

end

theorem allLeavesAmong_eq_flatMap (children : List Criteria) :
    allLeavesAmong children = children.flatMap Criteria.allLeaves := by
  induction children with
  | nil => rfl
  | cons child children ih => rw [allLeavesAmong, ih, List.flatMap_cons]

theorem Criteria.allLeaves_node (operator : Option Operator) (children : List Criteria)
    (leaves : List String) :
    (Criteria.node operator children leaves).allLeaves =
      children.flatMap Criteria.allLeaves ++ leaves := by
  rw [Criteria.allLeaves, allLeavesAmong_eq_flatMap]

section Unmarked

variable {ignored : List String}

theorem mem_unmarkedLeaves {leaf : String} {leaves : List String} :
    leaf ∈ unmarkedLeaves ignored leaves ↔
      leaf ∈ leaves ∧ ∀ marker ∈ ignored, ¬ marker.toList <:+: leaf.toList := by
  rw [unmarkedLeaves, List.mem_filter, decide_eq_true_iff]

/-- What the own leaves of a node give is made up of them. -/
theorem mem_unmarkedLeaves_of_mem_own {operator : Option Operator} {leaves : List String}
    {possibility : Possibility} {leaf : String}
    (h : possibility ∈ ownPossibilities ignored operator leaves) (hleaf : leaf ∈ possibility) :
    leaf ∈ unmarkedLeaves ignored leaves := by
  rw [← keep_eq_unmarkedLeaves]
  cases operator with
  | none => exact absurd h List.not_mem_nil
  | some operator =>
    cases operator with
    | conj =>
      obtain rfl := List.mem_singleton.1 h
      exact hleaf
    | disj =>
      obtain ⟨own, hown, rfl⟩ := List.mem_map.1 h
      obtain rfl := List.mem_singleton.1 hleaf
      exact hown

/-- The leaves of a possibility are leaves of the condition without an ignored marker. -/
theorem Criteria.mem_unmarked_of_mem_possibility {criteria : Criteria} {possibility : Possibility}
    {leaf : String} (h : possibility ∈ criteria.possibilities ignored)
    (hleaf : leaf ∈ possibility) : leaf ∈ unmarkedLeaves ignored criteria.allLeaves := by
  induction criteria generalizing possibility with
  | node operator children leaves ih =>
    rw [Criteria.possibilities_node] at h
    obtain ⟨group, hgroup, member, hmember, hin⟩ := exists_member_of_mem_combine h hleaf
    rw [mem_unmarkedLeaves, Criteria.allLeaves_node, List.mem_append]
    rw [partGroups, childGroups_eq_map, List.mem_append, List.mem_map] at hgroup
    rcases hgroup with ⟨child, hchild, rfl⟩ | hown
    · obtain ⟨hstands, hplain⟩ := mem_unmarkedLeaves.1 (ih child hchild hmember hin)
      exact ⟨Or.inl (List.mem_flatMap.2 ⟨child, hchild, hstands⟩), hplain⟩
    · rw [List.mem_singleton.1 hown] at hmember
      obtain ⟨hstands, hplain⟩ :=
        mem_unmarkedLeaves.1 (mem_unmarkedLeaves_of_mem_own hmember hin)
      exact ⟨Or.inr hstands, hplain⟩

theorem Criteria.mem_allLeaves_of_mem_possibility {criteria : Criteria}
    {possibility : Possibility} {leaf : String}
    (h : possibility ∈ criteria.possibilities ignored) (hleaf : leaf ∈ possibility) :
    leaf ∈ criteria.allLeaves :=
  (mem_unmarkedLeaves.1 (Criteria.mem_unmarked_of_mem_possibility h hleaf)).1

end Unmarked

/-! ## Meeting points -/

/-- `inner` stands in a condition: it is the condition, or stands in one of its children. -/
inductive Criteria.Within (inner : Criteria) : Criteria → Prop where
  | self : Within inner inner
  | child {operator : Option Operator} {children : List Criteria} {leaves : List String}
      {child : Criteria} : child ∈ children → Within inner child →
      Within inner (.node operator children leaves)

/-- Two leaves stand in a condition. -/
def Criteria.Holds (criteria : Criteria) (a b : String) : Prop :=
  a ∈ criteria.allLeaves ∧ b ∈ criteria.allLeaves

/-- The node with these parts is the lowest common ancestor of two leaves of a condition: both stand
in the node, and in no child of it do both stand. -/
structure Criteria.MeetAt (criteria : Criteria) (a b : String) (operator : Option Operator)
    (children : List Criteria) (leaves : List String) : Prop where
  within : Criteria.Within (.node operator children leaves) criteria
  holds : (Criteria.node operator children leaves).Holds a b
  lowest : ∀ child ∈ children, ¬ child.Holds a b

/-- Leaves that meet in a child meet there in the whole condition. -/
theorem Criteria.MeetAt.ofChild {a b : String} {operator inner : Option Operator}
    {children parts : List Criteria} {leaves own : List String} {child : Criteria}
    (hchild : child ∈ children) (h : child.MeetAt a b inner parts own) :
    (Criteria.node operator children leaves).MeetAt a b inner parts own :=
  ⟨.child hchild h.within, h.holds, h.lowest⟩

/-- The leaves of what stands in a condition are leaves of the condition. -/
theorem Criteria.Within.mem_allLeaves {inner criteria : Criteria} {leaf : String}
    (h : inner.Within criteria) (hleaf : leaf ∈ inner.allLeaves) : leaf ∈ criteria.allLeaves := by
  induction h with
  | self => exact hleaf
  | child hchild _ ih =>
    rw [Criteria.allLeaves_node]
    exact List.mem_append_left _ (List.mem_flatMap.2 ⟨_, hchild, ih⟩)

/-- Children with a leaf in common are the same, when leaves stand in one place each. -/
theorem eq_of_mem_allLeaves {children : List Criteria} {first second : Criteria} {leaf : String}
    (hnodup : (children.flatMap Criteria.allLeaves).Nodup) (hfirst : first ∈ children)
    (hsecond : second ∈ children) (hleaf : leaf ∈ first.allLeaves)
    (hleaf' : leaf ∈ second.allLeaves) : first = second := by
  by_contra hne
  have : Std.Symm (Function.onFun List.Disjoint Criteria.allLeaves) :=
    ⟨fun _ _ h _ hsecond hfirst => h hfirst hsecond⟩
  have hdisjoint := (List.nodup_flatMap.1 hnodup).2.forall hfirst hsecond hne
  exact hdisjoint hleaf hleaf'

/-- Two leaves meet at one node only, when the leaves of the condition are different comments. -/
theorem Criteria.MeetAt.unique {criteria : Criteria} (hnodup : criteria.allLeaves.Nodup)
    {a b : String} {operator operator' : Option Operator} {children children' : List Criteria}
    {leaves leaves' : List String} (h : criteria.MeetAt a b operator children leaves)
    (h' : criteria.MeetAt a b operator' children' leaves') :
    Criteria.node operator children leaves = .node operator' children' leaves' := by
  induction criteria with
  | node _ parts _ ih =>
    rw [Criteria.allLeaves_node] at hnodup
    have hparts := (List.nodup_append.1 hnodup).1
    -- Where one of them is this node, no child has both leaves, so the other one is it too.
    cases h.within with
    | self =>
      cases h'.within with
      | self => rfl
      | child hchild hin =>
        have hholds := And.intro (hin.mem_allLeaves h'.holds.1) (hin.mem_allLeaves h'.holds.2)
        exact absurd hholds (h.lowest _ hchild)
    | child hchild hin =>
      cases h'.within with
      | self =>
        have hholds := And.intro (hin.mem_allLeaves h.holds.1) (hin.mem_allLeaves h.holds.2)
        exact absurd hholds (h'.lowest _ hchild)
      | child hchild' hin' =>
        obtain rfl := eq_of_mem_allLeaves hparts hchild hchild' (hin.mem_allLeaves h.holds.1)
          (hin'.mem_allLeaves h'.holds.1)
        exact ih _ hchild ((List.nodup_flatMap.1 hparts).1 _ hchild)
          ⟨hin, h.holds, h.lowest⟩ ⟨hin', h'.holds, h'.lowest⟩

section Meeting

variable {ignored : List String} {a b : String}

/-- The leaves of a product of children stand in the children. -/
theorem mem_flatMap_of_mem_conj {children : List Criteria} {possibility : Possibility}
    {leaf : String} (h : possibility ∈ combine (some .conj) (childGroups ignored children))
    (hleaf : leaf ∈ possibility) : leaf ∈ children.flatMap Criteria.allLeaves := by
  obtain ⟨group, hgroup, member, hmember, hin⟩ := exists_member_of_mem_combine h hleaf
  rw [childGroups_eq_map] at hgroup
  obtain ⟨child, hchild, rfl⟩ := List.mem_map.1 hgroup
  exact List.mem_flatMap.2
    ⟨child, hchild, Criteria.mem_allLeaves_of_mem_possibility hmember hin⟩

/-- The leaves of a product of parts stand in the parts. -/
theorem mem_parts_of_mem_conj {children : List Criteria} {leaves : List String}
    {operator : Option Operator} {possibility : Possibility} {leaf : String}
    (h : possibility ∈ combine (some .conj) (partGroups ignored children leaves operator))
    (hleaf : leaf ∈ possibility) : leaf ∈ children.flatMap Criteria.allLeaves ++ leaves := by
  rw [partGroups, combine_conj_append, combine_conj_singleton] at h
  obtain ⟨before, hbefore, member, hmember, rfl⟩ := mem_extendBy.1 h
  rw [List.mem_append]
  rcases List.mem_append.1 hleaf with hin | hin
  · exact Or.inl (mem_flatMap_of_mem_conj hbefore hin)
  · exact Or.inr (mem_unmarkedLeaves.1 (mem_unmarkedLeaves_of_mem_own hmember hin)).1

/-- When leaves stand in one place each, what a possibility of a conjunction has of the leaves of a
child is a possibility of the child. -/
theorem exists_possibility_of_child {child : Criteria} {front back : List Criteria}
    {leaves : List String} {possibility : Possibility}
    (hnodup : (Criteria.node (some .conj) (front ++ child :: back) leaves).allLeaves.Nodup)
    (h : possibility ∈
      (Criteria.node (some .conj) (front ++ child :: back) leaves).possibilities ignored) :
    ∃ member ∈ child.possibilities ignored,
      ∀ leaf ∈ child.allLeaves, leaf ∈ possibility → leaf ∈ member := by
  rw [Criteria.possibilities_node, partGroups, childGroups_eq_map, List.map_append, List.map_cons,
    List.append_assoc, List.cons_append, ← childGroups_eq_map, ← childGroups_eq_map] at h
  obtain ⟨before, hbefore, member, hmember, after, hafter, rfl⟩ := mem_combine_conj_middle h
  refine ⟨member, hmember, ?_⟩
  -- A leaf of the child is in none of the other parts, so it comes from the member in the middle.
  rw [Criteria.allLeaves_node, List.flatMap_append, List.flatMap_cons, List.append_assoc,
    List.append_assoc] at hnodup
  obtain ⟨-, hrest, hfront⟩ := List.nodup_append.1 hnodup
  obtain ⟨-, -, hback⟩ := List.nodup_append.1 hrest
  intro leaf hleaf hin
  rcases List.mem_append.1 hin with hbeforeLeaf | hin
  · have hstands := mem_flatMap_of_mem_conj hbefore hbeforeLeaf
    exact absurd rfl (hfront leaf hstands leaf (List.mem_append_left _ hleaf))
  · rcases List.mem_append.1 hin with hmemberLeaf | hafterLeaf
    · exact hmemberLeaf
    · have hstands := mem_parts_of_mem_conj hafter hafterLeaf
      exact absurd rfl (hback leaf hleaf leaf hstands)

/-- Two leaves of one possibility meet at a conjunction, when the leaves of the condition are
different comments. -/
theorem Criteria.exists_meet_conj {criteria : Criteria} {possibility : Possibility}
    (hnodup : criteria.allLeaves.Nodup) (h : possibility ∈ criteria.possibilities ignored)
    (ha : a ∈ possibility) (hb : b ∈ possibility) (hne : a ≠ b) :
    ∃ children leaves, criteria.MeetAt a b (some .conj) children leaves := by
  induction criteria generalizing possibility with
  | node operator children leaves ih =>
    -- Where both leaves come from one child, they meet in it.
    have hinside : ∀ child ∈ children, ∀ member ∈ child.possibilities ignored, a ∈ member →
        b ∈ member → ∃ parts own,
          (Criteria.node operator children leaves).MeetAt a b (some .conj) parts own := by
      intro child hchild member hmember hamember hbmember
      rw [Criteria.allLeaves_node] at hnodup
      have hchildNodup : child.allLeaves.Nodup :=
        (List.nodup_flatMap.1 (List.nodup_append.1 hnodup).1).1 child hchild
      obtain ⟨parts, own, hmeet⟩ := ih child hchild hchildNodup hmember hamember hbmember
      exact ⟨parts, own, hmeet.ofChild hchild⟩
    cases operator with
    | none =>
      rw [possibilities_none] at h
      exact absurd h List.not_mem_nil
    | some operator =>
      cases operator with
      | conj =>
        by_cases hboth : ∃ child ∈ children, child.Holds a b
        · obtain ⟨child, hchild, hachild, hbchild⟩ := hboth
          obtain ⟨front, back, rfl⟩ := List.append_of_mem hchild
          obtain ⟨member, hmember, hkept⟩ := exists_possibility_of_child hnodup h
          exact hinside child hchild member hmember (hkept a hachild ha) (hkept b hbchild hb)
        · -- No child has both leaves, so it is this node where they meet.
          refine ⟨children, leaves, .self, ⟨?_, ?_⟩, fun child hchild hholds => ?_⟩
          · exact Criteria.mem_allLeaves_of_mem_possibility h ha
          · exact Criteria.mem_allLeaves_of_mem_possibility h hb
          · exact hboth ⟨child, hchild, hholds⟩
      | disj =>
        rw [Criteria.possibilities_node, combine, partGroups, childGroups_eq_map] at h
        obtain ⟨group, hgroup, hmember⟩ := List.mem_flatten.1 h
        rcases List.mem_append.1 hgroup with hchildGroup | hown
        · obtain ⟨child, hchild, rfl⟩ := List.mem_map.1 hchildGroup
          exact hinside child hchild possibility hmember ha hb
        · -- A leaf of a disjunction stands alone in its possibility.
          rw [List.mem_singleton.1 hown] at hmember
          obtain ⟨leaf, -, rfl⟩ := List.mem_map.1 hmember
          rw [List.mem_singleton.1 ha, List.mem_singleton.1 hb] at hne
          exact absurd rfl hne

end Meeting

end AdvisoryFeed
