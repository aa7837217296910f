/-!
# Elements

What a document holds once it is read: elements with expanded names, their attributes, the text in
front of their first child, and their children.
-/

namespace AdvisoryFeed.Xml

/-- An expanded name: the namespace, if any, and the name in it. -/
structure Name where
  space : Option String
  base : String
deriving DecidableEq, Repr

/-- The namespace in braces, then the name. -/
def Name.text (name : Name) : String :=
  match name.space with
  | none => name.base
  | some space => "\x7b" ++ space ++ "\x7d" ++ name.base

/-- An element of a document. -/
inductive Element where
  | node (name : Name) (attributes : List (Name × String)) (text : String) (children : List Element)

/-- The expanded name. -/
def Element.name : Element → Name
  | .node name _ _ _ => name

/-- The attributes. -/
def Element.attributes : Element → List (Name × String)
  | .node _ attributes _ _ => attributes

/-- The text in front of the first child. -/
def Element.text : Element → String
  | .node _ _ text _ => text

/-- The children, in document order. -/
def Element.children : Element → List Element
  | .node _ _ _ children => children

/-- The name without its namespace. -/
def Element.base (element : Element) : String :=
  element.name.base

/-- The value of an attribute without a namespace. -/
def Element.attribute? (element : Element) (base : String) : Option String :=
  element.attributes.lookup ⟨none, base⟩

/-- The children of one name, in document order. -/
def Element.childrenNamed (element : Element) (base : String) : List Element :=
  element.children.filter (·.base == base)

/-- The first child of a name. -/
def Element.child? (element : Element) (base : String) : Option Element :=
  element.children.find? (·.base == base)

end AdvisoryFeed.Xml
