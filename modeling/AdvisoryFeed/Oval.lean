import AdvisoryFeed.Advisory
import AdvisoryFeed.Text.Blank
import AdvisoryFeed.Xml.Document
import AdvisoryFeed.Notice

/-!
# OVAL documents

The advisories of a document of OVAL definitions. Elements are found by their names without
namespaces; where one child is wanted the first one counts.
-/

namespace AdvisoryFeed

open AdvisoryFeed.Text AdvisoryFeed.Xml

/-- Why a document gives no advisories. -/
inductive OvalError where
  | refused (refusal : Refusal)
  | unexpectedRoot (name : Name)
deriving DecidableEq, Repr

/-- What is told of a document that is refused. -/
def refusalText : Refusal → String
  | .malformed => "malformed XML"
  | .entity => "forbidden (EntitiesForbidden)"

/-- The wording of the error. -/
def OvalError.message : OvalError → String
  | .refused refusal => "could not parse OVAL document: " ++ refusalText refusal
  | .unexpectedRoot name => "unexpected root element " ++ quote name.base

/-- The notice that goes with the error. -/
def OvalError.notice : OvalError → Notice
  | .refused refusal => .undecodable (refusalText refusal)
  | .unexpectedRoot name => .otherRoot name.text

/-- The text of the first child of a name; empty when there is none. -/
def childText (element : Option Element) (base : String) : String :=
  ((element.bind fun element => element.child? base).map Element.text).getD ""

/-- The children of a name; none when there is no element. -/
def childrenOf (element : Option Element) (base : String) : List Element :=
  (element.map fun element => element.childrenNamed base).getD []

/-- The value of an attribute; empty when it is missing. -/
def attributeText (element : Element) (base : String) : String :=
  (element.attribute? base).getD ""

mutual

/-- The condition of an element. -/
def criteriaOf : Element → Criteria
  | .node name attributes text children =>
    .node (((Element.node name attributes text children).attribute? "operator").bind
        Operator.ofLabel?)
      (criteriaAmong children)
      ((children.filter (·.base == "criterion")).map fun leaf => attributeText leaf "comment")

/-- The conditions of the elements that hold one. -/
def criteriaAmong : List Element → List Criteria
  | [] => []
  | child :: children =>
    if child.base == "criteria" then criteriaOf child :: criteriaAmong children
    else criteriaAmong children

end

/-- The conditions among elements are those of the elements named for them. -/
theorem criteriaAmong_eq_map (children : List Element) :
    criteriaAmong children = (children.filter (·.base == "criteria")).map criteriaOf := by
  induction children with
  | nil => simp [criteriaAmong]
  | cons child children ih =>
    by_cases h : child.base == "criteria" <;> simp [criteriaAmong, h, ih]

/-- A reference of an advisory. -/
def referenceOf (element : Element) : Reference :=
  ⟨attributeText element "source", attributeText element "ref_url", attributeText element "ref_id"⟩

/-- A vulnerability that an advisory lists. -/
def cveOf (element : Element) : CveReference :=
  ⟨String.ofList (strip element.text.toList), attributeText element "impact",
    attributeText element "href"⟩

/-- The advisory of a definition. -/
def advisoryOf (definition : Element) : Advisory :=
  let metadata := definition.child? "metadata"
  let advisory := metadata.bind fun element => element.child? "advisory"
  { title := childText metadata "title"
    description := childText metadata "description"
    severity := childText advisory "severity"
    criteria := ((definition.child? "criteria").map criteriaOf).getD Criteria.empty
    references := (childrenOf metadata "reference").map referenceOf
    cves := (childrenOf advisory "cve").map cveOf }

/-- The advisories under a root element. -/
def advisoriesOf (root : Element) : Except OvalError (List Advisory) :=
  if root.base = "oval_definitions" then
    .ok ((childrenOf (root.child? "definitions") "definition").map advisoryOf)
  else .error (.unexpectedRoot root.name)

/-- The advisories of a document. -/
def readAdvisories (bytes : List UInt8) : Except OvalError (List Advisory) :=
  match readDocument bytes with
  | .error refusal => .error (.refused refusal)
  | .ok root => advisoriesOf root

end AdvisoryFeed
