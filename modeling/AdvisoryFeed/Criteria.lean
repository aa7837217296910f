import AdvisoryFeed.Text.Search

/-!
# Criteria

The condition of an advisory is a tree: a node joins its children and its leaves by an operator, and
a leaf is a comment. `Criteria.possibilities` expands a tree into its disjunctive normal form: each
possibility is a list of leaves which together make the tree true. Leaves that bear an ignored
marker are dropped before anything is combined.
-/

namespace AdvisoryFeed

open AdvisoryFeed.Text

/-- How a node joins its parts. -/
inductive Operator where
  | conj
  | disj
deriving DecidableEq, Repr

/-- The label of an operator in documents. -/
def Operator.label : Operator → String
  | .conj => "AND"
  | .disj => "OR"

/-- The operator with a label, which must be written exactly. -/
def Operator.ofLabel? (label : String) : Option Operator :=
  if label = "AND" then some .conj
  else if label = "OR" then some .disj
  else none

/-- An operator is read back from its label. -/
theorem Operator.ofLabel?_label (operator : Operator) :
    Operator.ofLabel? operator.label = some operator := by
  cases operator <;> decide

/-- A condition. Children and leaves may stand on one node; a node without an operator is never
fulfilled. -/
inductive Criteria where
  | node (operator : Option Operator) (children : List Criteria) (leaves : List String)

/-- The condition that says nothing. -/
def Criteria.empty : Criteria :=
  .node none [] []

instance : Inhabited Criteria :=
  ⟨Criteria.empty⟩

/-- Leaves that fulfil a condition together. -/
abbrev Possibility := List String

/-- The markers of leaves that say nothing about packages: assertions of signing keys and variants
for patching a running system. -/
def defaultIgnored : List String :=
  [" is signed with the Oracle Linux", ".ksplice1."]

/-- A leaf bears one of the markers. -/
def bearsMarker (ignored : List String) (leaf : String) : Bool :=
  ignored.any fun marker => contains marker.toList leaf.toList

/-- The leaves without an ignored marker. -/
def keep (ignored : List String) (leaves : List String) : List String :=
  leaves.filter fun leaf => !bearsMarker ignored leaf

/-- The possibilities of leaves that an operator joins. -/
def ownPossibilities (ignored : List String) (operator : Option Operator) (leaves : List String) :
    List Possibility :=
  match operator with
  | some .conj => [keep ignored leaves]
  | some .disj => (keep ignored leaves).map fun leaf => [leaf]
  | none => []

/-- Every possibility of a first list extended by every one of a second, the second varying
fastest. -/
def extendBy (partials group : List Possibility) : List Possibility :=
  partials.flatMap fun done => group.map fun more => done ++ more

/-- The possibilities of a node from those of its parts. -/
def combine (operator : Option Operator) (groups : List (List Possibility)) : List Possibility :=
  match operator with
  | some .conj => groups.foldl extendBy [[]]
  | some .disj => groups.flatten
  | none => []

mutual

/-- The possibilities of a condition. -/
def Criteria.possibilities (ignored : List String) : Criteria → List Possibility
  | .node operator children leaves =>
    if children.isEmpty then ownPossibilities ignored operator leaves
    else combine operator (childGroups ignored children ++
      if leaves.isEmpty then [] else [ownPossibilities ignored operator leaves])

/-- The possibilities of each of several conditions. -/
def childGroups (ignored : List String) : List Criteria → List (List Possibility)
  | [] => []
  | child :: children => child.possibilities ignored :: childGroups ignored children

end

/-- The groups of several conditions are their possibilities, one by one. -/
theorem childGroups_eq_map (ignored : List String) (children : List Criteria) :
    childGroups ignored children = children.map (·.possibilities ignored) := by
  induction children with
  | nil => simp [childGroups]
  | cons child children ih => simp [childGroups, ih]

end AdvisoryFeed
