import FlatStyle.Session

namespace FlatStyle

/-- The name of an element with its classes and its id, as a selector would spell them. -/
def Element.label (e : Element) : String :=
  let classes := match e.className? with
    | some value => (Text.asciiWords value.toList).map fun word => "." ++ String.ofList word
    | none => []
  let ident := match e.ident? with
    | some value => "#" ++ value
    | none => ""
  e.name ++ String.join classes ++ ident

structure ElementStyle where
  /-- The labels from the outermost element down. -/
  path : List String
  properties : PropertyMap

structure Report where
  rules : List Rule
  elements : List ElementStyle
  warnings : List String
  /-- The warnings as they were shown. -/
  echoed : List String

namespace Document

/-- The styled elements in document order; those without properties only if `all` are wanted. -/
def elementStyles (d : Document) (styles : SortedMap NodeId PropertyMap) (all : Bool) :
    Except StyleError (List ElementStyle) :=
  let styled := (d.descendants root).filterMap fun id => (styles.get? id).map (id, ·)
  (styled.filter fun entry => all || !entry.2.isEmpty).mapM fun entry => do
    let path ← d.context entry.1
    pure ⟨path.map Element.label, entry.2⟩

def report (d : Document) (all echoing : Bool) : Except StyleError Report := do
  let session := (Session.start echoing).readDocument d
  let styles ← (d.styles session.index).mapError .unresolved
  let (warnings, session) := session.takeWarnings
  let elements ← d.elementStyles styles all
  pure ⟨session.index.rules, elements, warnings, session.log.echoed⟩

end Document

end FlatStyle
