import AdvisoryFeed.Oval
import Mathlib.Logic.Relation

/-!
# Edits of documents

A document may be edited (`Element.Edit`) without changing what it says: elements may move to other
namespaces, subtrees that nobody looks for may come and go below the root, and siblings may be
reordered as long as those of one name keep their order. Decoding gives the same advisories before
and after any number of such edits (`Element.Edited.decodedAlike`).

What a decoder reads of an element is `Unaffected` when no single edit changes it. The base name,
the text and the attributes are; and what is unaffected of an element is unaffected of the children
that are found by their name (`Element.Edit.map_childrenNamed`), because an edit changes at most one
of them, and that one by an edit. So the readings of the decoder are put together from unaffected
ones, along the path by which each of them is found (`Steady`).
-/

namespace AdvisoryFeed

open AdvisoryFeed.Text AdvisoryFeed.Xml

/-! ## Edits -/

/-- The names that are looked for below the root of a document. -/
def readNames : List String :=
  ["definitions", "definition", "metadata", "title", "description", "reference", "advisory",
   "severity", "cve", "criteria", "criterion"]

/-- A single edit of a document, at the root or anywhere below it. Every element that stays keeps
its attributes and its text. -/
inductive Xml.Element.Edit : Element → Element → Prop where
  /-- An element moves to another namespace, into one or out of one. -/
  | rename {space space' : Option String} {base : String} {attributes : List (Name × String)}
      {text : String} {children : List Element} :
      Element.Edit (.node ⟨space, base⟩ attributes text children)
        (.node ⟨space', base⟩ attributes text children)
  /-- A subtree of a name that is not looked for comes among the children. -/
  | insert {name : Name} {attributes : List (Name × String)} {text : String}
      (front back : List Element) (foreign : Element) : foreign.base ∉ readNames →
      Element.Edit (.node name attributes text (front ++ back))
        (.node name attributes text (front ++ foreign :: back))
  /-- A subtree of a name that is not looked for goes. -/
  | remove {name : Name} {attributes : List (Name × String)} {text : String}
      (front back : List Element) (foreign : Element) : foreign.base ∉ readNames →
      Element.Edit (.node name attributes text (front ++ foreign :: back))
        (.node name attributes text (front ++ back))
  /-- The children are put in another order, but those of each name keep theirs. -/
  | reorder {name : Name} {attributes : List (Name × String)} {text : String}
      {children children' : List Element} : children.Perm children' →
      (∀ base, children.filter (·.base == base) = children'.filter (·.base == base)) →
      Element.Edit (.node name attributes text children) (.node name attributes text children')
  /-- A child is edited. -/
  | inside {name : Name} {attributes : List (Name × String)} {text : String}
      (front back : List Element) {child child' : Element} : Element.Edit child child' →
      Element.Edit (.node name attributes text (front ++ child :: back))
        (.node name attributes text (front ++ child' :: back))

/-- One document is obtained from the other by any number of edits. -/
def Xml.Element.Edited : Element → Element → Prop :=
  Relation.ReflTransGen Element.Edit

/-! ## Readings that edits leave alone -/

/-- What is read of an element is the same before and after an edit. -/
def Unaffected {α : Type} (read : Element → α) : Prop :=
  ∀ ⦃element edited : Element⦄, element.Edit edited → read element = read edited

section Readings

variable {α : Type} {read : Element → α}

theorem Unaffected.comp {β : Type} (h : Unaffected read) (g : α → β) :
    Unaffected fun element => g (read element) :=
  fun _ _ hedit => congrArg g (h hedit)

/-- What no edit changes, any number of edits leaves as it is. -/
theorem Unaffected.eq_of_edited (h : Unaffected read) {element edited : Element}
    (hedited : element.Edited edited) : read element = read edited := by
  induction hedited with
  | refl => rfl
  | tail _ hedit ih => exact ih.trans (h hedit)

theorem unaffected_base : Unaffected Element.base := by
  intro element edited h
  cases h <;> rfl

theorem unaffected_text : Unaffected Element.text := by
  intro element edited h
  cases h <;> rfl

theorem unaffected_attributes : Unaffected Element.attributes := by
  intro element edited h
  cases h <;> rfl

theorem unaffected_attribute? (base : String) : Unaffected (·.attribute? base) :=
  unaffected_attributes.comp (List.lookup (⟨none, base⟩ : Name))

theorem unaffected_attributeText (base : String) : Unaffected (attributeText · base) :=
  (unaffected_attribute? base).comp (·.getD "")

/-- Elements of other names do not count among the children of a name. -/
theorem childrenNamed_skip {base : String} (hbase : base ∈ readNames) {foreign : Element}
    (hforeign : foreign.base ∉ readNames) (front back : List Element) :
    (front ++ foreign :: back).filter (·.base == base) =
      (front ++ back).filter (·.base == base) := by
  have hother : foreign.base ≠ base := fun heq => hforeign (heq ▸ hbase)
  rw [List.filter_append, List.filter_append, List.filter_cons_of_neg (by simpa using hother)]

/-- An edit changes nothing that is read of the children of a name, when no edit of one of these
children does. -/
theorem Xml.Element.Edit.map_childrenNamed {element edited : Element} (h : element.Edit edited)
    {base : String} (hbase : base ∈ readNames)
    (hread : ∀ child ∈ element.children, ∀ child', child.Edit child' → read child = read child') :
    (element.childrenNamed base).map read = (edited.childrenNamed base).map read := by
  unfold Element.childrenNamed
  cases h with
  | rename => rfl
  | insert front back foreign hforeign =>
    exact congrArg _ (childrenNamed_skip hbase hforeign front back).symm
  | remove front back foreign hforeign =>
    exact congrArg _ (childrenNamed_skip hbase hforeign front back)
  | reorder _ hsame => exact congrArg _ (hsame base)
  | @inside _ _ _ front _ child child' hchild =>
    -- The child that is edited keeps its name, so it is found in both or in neither.
    have hname : child.base = child'.base := unaffected_base hchild
    have hsame : read child = read child' :=
      hread child (List.mem_append_right front List.mem_cons_self) child' hchild
    rw [Element.children, Element.children, List.filter_append, List.filter_append,
      List.map_append, List.map_append, List.filter_cons, List.filter_cons, hname]
    split
    · rw [List.map_cons, List.map_cons, hsame]
    · rfl

theorem Unaffected.map_childrenNamed (h : Unaffected read) {base : String}
    (hbase : base ∈ readNames) :
    Unaffected fun element => (element.childrenNamed base).map read :=
  fun _ _ hedit => hedit.map_childrenNamed hbase fun _ _ _ hchild => h hchild

/-- The first child of a name is the first one of the children of that name. -/
theorem child?_eq_head? (element : Element) (base : String) :
    element.child? base = (element.childrenNamed base).head? :=
  (List.head?_filter ..).symm

theorem Unaffected.map_child? (h : Unaffected read) {base : String} (hbase : base ∈ readNames) :
    Unaffected fun element => (element.child? base).map read := by
  intro element edited hedit
  have hchildren : (element.childrenNamed base).map read = (edited.childrenNamed base).map read :=
    h.map_childrenNamed hbase hedit
  dsimp only
  rw [child?_eq_head?, child?_eq_head?, ← List.head?_map, ← List.head?_map, hchildren]

end Readings

/-! ## Paths -/

/-- What is unaffected of an element is unaffected of the element that is found from it. -/
def Steady (find : Element → Option Element) : Prop :=
  ∀ ⦃α : Type⦄ ⦃read : Element → α⦄, Unaffected read →
    Unaffected fun element => (find element).map read

section Paths

variable {find : Element → Option Element} {base : String}

theorem steady_child? (hbase : base ∈ readNames) : Steady (·.child? base) :=
  fun _ _ hread => hread.map_child? hbase

/-- A path may go on to a first child. -/
theorem Steady.child? (h : Steady find) (hbase : base ∈ readNames) :
    Steady fun element => (find element).bind (·.child? base) := by
  intro α read hread
  have hjoin : ∀ found : Option Element, (found.bind (·.child? base)).map read =
      (found.map fun element => (element.child? base).map read).join := by
    intro found
    cases found <;> rfl
  simp only [hjoin]
  exact (h (hread.map_child? hbase)).comp Option.join

theorem Steady.childText (h : Steady find) (hbase : base ∈ readNames) :
    Unaffected fun element => AdvisoryFeed.childText (find element) base :=
  (h.child? hbase unaffected_text).comp (·.getD "")

theorem Steady.map_childrenOf {α : Type} {read : Element → α} (h : Steady find)
    (hread : Unaffected read) (hbase : base ∈ readNames) :
    Unaffected fun element => (childrenOf (find element) base).map read := by
  have hmap : ∀ found : Option Element, (childrenOf found base).map read =
      (found.map fun element => (element.childrenNamed base).map read).getD [] := by
    intro found
    cases found <;> rfl
  simp only [hmap]
  exact (h (hread.map_childrenNamed hbase)).comp (·.getD [])

end Paths

/-! ## Decoding -/

section Decoding

/-- Induction over elements: a property holds of every element if it passes from the children of an
element to the element. -/
@[elab_as_elim]
theorem Xml.Element.inductionOn {motive : Element → Prop} (element : Element)
    (node : ∀ name attributes text children, (∀ child ∈ children, motive child) →
      motive (.node name attributes text children)) : motive element :=
  match element with
  | .node name attributes text children =>
    node name attributes text children fun child hmem =>
      have := List.sizeOf_lt_of_mem hmem
      inductionOn child node
termination_by sizeOf element
decreasing_by
  simp only [Element.node.sizeOf_spec]
  omega

/-- The condition of an element is read from an attribute and from its children of two names. -/
theorem criteriaOf_eq (element : Element) :
    criteriaOf element =
      .node ((element.attribute? "operator").bind Operator.ofLabel?)
        ((element.childrenNamed "criteria").map criteriaOf)
        ((element.childrenNamed "criterion").map fun leaf => attributeText leaf "comment") := by
  cases element with
  | node name attributes text children =>
    rw [criteriaOf, criteriaAmong_eq_map]
    rfl

/-- The induction is on the element, since the conditions of its children are read from these. -/
theorem unaffected_criteriaOf : Unaffected criteriaOf := by
  intro element
  induction element using Element.inductionOn with
  | node name attributes text children ih =>
    intro edited hedit
    rw [criteriaOf_eq, criteriaOf_eq edited]
    congr 1
    · exact (unaffected_attribute? "operator").comp (·.bind Operator.ofLabel?) hedit
    · exact hedit.map_childrenNamed (by decide) ih
    · exact (unaffected_attributeText "comment").map_childrenNamed (by decide) hedit

theorem unaffected_referenceOf : Unaffected referenceOf := by
  intro element edited hedit
  rw [referenceOf, referenceOf]
  congr 1
  · exact unaffected_attributeText "source" hedit
  · exact unaffected_attributeText "ref_url" hedit
  · exact unaffected_attributeText "ref_id" hedit

theorem unaffected_cveOf : Unaffected cveOf := by
  intro element edited hedit
  rw [cveOf, cveOf]
  congr 1
  · exact unaffected_text.comp (fun text => String.ofList (strip text.toList)) hedit
  · exact unaffected_attributeText "impact" hedit
  · exact unaffected_attributeText "href" hedit

/-- The texts and lists of an advisory are read along paths that edits leave alone. -/
theorem unaffected_advisoryOf : Unaffected advisoryOf := by
  have hmetadata : Steady (·.child? "metadata") := steady_child? (by decide)
  have hadvisory : Steady fun definition =>
      (definition.child? "metadata").bind (·.child? "advisory") := hmetadata.child? (by decide)
  have hcriteria : Steady (·.child? "criteria") := steady_child? (by decide)
  intro definition edited hedit
  rw [advisoryOf, advisoryOf]
  -- One goal for each field: the condition, and texts and lists at the ends of the two paths.
  congr 1
  · exact hmetadata.childText (by decide) hedit
  · exact hmetadata.childText (by decide) hedit
  · exact hadvisory.childText (by decide) hedit
  · exact (hcriteria unaffected_criteriaOf).comp (·.getD Criteria.empty) hedit
  · exact hmetadata.map_childrenOf unaffected_referenceOf (by decide) hedit
  · exact hadvisory.map_childrenOf unaffected_cveOf (by decide) hedit

end Decoding

/-! ## Documents -/

/-- Two documents give the same advisories, or both are refused for the name of their root, which is
the same but for its namespace. -/
inductive DecodedAlike :
    Except OvalError (List Advisory) → Except OvalError (List Advisory) → Prop where
  | advisories (advisories : List Advisory) : DecodedAlike (.ok advisories) (.ok advisories)
  | unexpectedRoot {name name' : Name} : name.base = name'.base →
      DecodedAlike (.error (.unexpectedRoot name)) (.error (.unexpectedRoot name'))

/-- Decoding depends only on the names without namespaces and on the order of the siblings of each
of the names that are looked for, whatever documents the elements were read from. -/
theorem Xml.Element.Edited.decodedAlike {root edited : Element} (h : root.Edited edited) :
    DecodedAlike (advisoriesOf root) (advisoriesOf edited) ∧
      ∀ bytes bytes', readDocument bytes = .ok root → readDocument bytes' = .ok edited →
        DecodedAlike (readAdvisories bytes) (readAdvisories bytes') := by
  have hroot : root.base = edited.base := unaffected_base.eq_of_edited h
  have hdefinitions : Steady (·.child? "definitions") := steady_child? (by decide)
  have hdecoded : (childrenOf (root.child? "definitions") "definition").map advisoryOf =
      (childrenOf (edited.child? "definitions") "definition").map advisoryOf :=
    (hdefinitions.map_childrenOf unaffected_advisoryOf (by decide)).eq_of_edited h
  have halike : DecodedAlike (advisoriesOf root) (advisoriesOf edited) := by
    rw [advisoriesOf, advisoriesOf, hroot, hdecoded]
    split
    · exact .advisories _
    · exact .unexpectedRoot hroot
  refine ⟨halike, fun bytes bytes' hread hread' => ?_⟩
  rw [readAdvisories, readAdvisories, hread, hread']
  exact halike

/-- Two siblings of different names may change places. -/
theorem Xml.Element.Edit.swap {first second : Element} (h : first.base ≠ second.base) (name : Name)
    (attributes : List (Name × String)) (text : String) :
    Element.Edit (.node name attributes text [first, second])
      (.node name attributes text [second, first]) := by
  refine .reorder (List.Perm.swap second first []) fun base => ?_
  by_cases hfirst : first.base = base
  · have hsecond : second.base ≠ base := fun hsecond => h (hfirst.trans hsecond.symm)
    simp [hfirst, hsecond]
  · simp [List.filter_cons, hfirst]

/-- A document with one definition, of which the parts are given; its root is in a namespace or in
none, and a foreign element may stand in front of the definitions. -/
def sampleDocument (space : Option String) (front parts : List Element) : Element :=
  .node ⟨space, "oval_definitions"⟩ [] ""
    (front ++ [.node ⟨some "urn:oval", "definitions"⟩ [] ""
      [.node ⟨some "urn:oval", "definition"⟩ [] "" parts]])

/-- A title, in the metadata of a definition. -/
def sampleMetadata : Element :=
  .node ⟨some "urn:oval", "metadata"⟩ [] "" [.node ⟨some "urn:oval", "title"⟩ [] "ELSA-1: bash" []]

/-- A condition of two alternatives. -/
def sampleCriteria : Element :=
  .node ⟨some "urn:oval", "criteria"⟩ [(⟨none, "operator"⟩, "OR")] ""
    [.node ⟨none, "criterion"⟩ [(⟨none, "comment"⟩, "a")] "" [],
     .node ⟨none, "criterion"⟩ [(⟨none, "comment"⟩, "b")] "" []]

/-- An element that nobody looks for, though an element that is looked for stands in it. -/
def sampleGenerator : Element :=
  .node ⟨none, "generator"⟩ [] "5.11" [sampleMetadata]

theorem decodedAlike_sampleDocument :
    (sampleDocument (some "urn:oval") [] [sampleMetadata, sampleCriteria]).Edited
        (sampleDocument none [sampleGenerator] [sampleCriteria, sampleMetadata]) ∧
      DecodedAlike
        (advisoriesOf (sampleDocument (some "urn:oval") [] [sampleMetadata, sampleCriteria]))
        (advisoriesOf (sampleDocument none [sampleGenerator] [sampleCriteria, sampleMetadata])) ∧
      (advisoriesOf (sampleDocument none [sampleGenerator]
        [sampleCriteria, sampleMetadata])).toOption.map (List.map Advisory.title) =
        some ["ELSA-1: bash"] := by
  have hrename : (sampleDocument (some "urn:oval") [] [sampleMetadata, sampleCriteria]).Edit
      (sampleDocument none [] [sampleMetadata, sampleCriteria]) := .rename
  have hinsert : (sampleDocument none [] [sampleMetadata, sampleCriteria]).Edit
      (sampleDocument none [sampleGenerator] [sampleMetadata, sampleCriteria]) :=
    .insert [] _ sampleGenerator (by decide)
  have hswap : (sampleDocument none [sampleGenerator] [sampleMetadata, sampleCriteria]).Edit
      (sampleDocument none [sampleGenerator] [sampleCriteria, sampleMetadata]) :=
    .inside [sampleGenerator] [] (.inside [] [] (.swap (by decide) _ _ _))
  have hedited := Relation.ReflTransGen.head hrename (.head hinsert (.single hswap))
  exact ⟨hedited, (Element.Edited.decodedAlike hedited).1, by rfl⟩

end AdvisoryFeed
