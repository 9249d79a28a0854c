import FlatStyle.Declaration
import FlatStyle.Document.Traversal
import FlatStyle.Selector
import FlatStyle.Stylesheet.Discovery
import FlatStyle.Text.Quoted

/-!
The properties of elements. Of all rules that match an element the newest is taken whole, and the
element's own style text follows it; nothing is inherited.
-/

namespace FlatStyle

/-- The rules that elements are matched against, oldest first. -/
structure StyleIndex where
  rules : List Rule

inductive ResolveError where
  | emptyContext (name : String)
  | otherElement (name last : String)

def ResolveError.message : ResolveError → String
  | .emptyContext name =>
      "cannot resolve style for <" ++ name ++ ">: element context is empty"
  | .otherElement name last =>
      "assertion \x60left == right\x60 failed: element context does not end with the element " ++
        "being resolved\n  left: " ++ Text.quoted last ++ "\n right: " ++ Text.quoted name

namespace StyleIndex

def empty : StyleIndex := ⟨[]⟩

instance : EmptyCollection StyleIndex := ⟨empty⟩

def ofSheet (sheet : Sheet) : StyleIndex := ⟨sheet.rules⟩

def addSheet (index : StyleIndex) (sheet : Sheet) : StyleIndex := ⟨index.rules ++ sheet.rules⟩

def register (index : StyleIndex) (selectors declaration : String) : StyleIndex :=
  ⟨index.rules ++ Rule.ofBlock selectors.toList declaration.toList⟩

def newestMatch? (index : StyleIndex) (e : Element) : Option String :=
  (index.rules.reverse.find? fun rule => selectorMatches rule.selector e).map (·.declaration)

/-- Resolves the last element of a context, which the caller also names. -/
def resolve (index : StyleIndex) (name : String) (context : List Element) :
    Except ResolveError (Option String) :=
  match context.getLast? with
  | none => .error (.emptyContext name)
  | some e =>
      if e.name = name then .ok (index.newestMatch? e) else .error (.otherElement name e.name)

end StyleIndex

inductive StyleError where
  /-- A node that is no element was asked for. -/
  | notAnElement (id : NodeId)
  | unresolved (cause : ResolveError)

def StyleError.message : StyleError → String
  | .notAnElement id => "node NodeId(" ++ toString id ++ ") is not an element"
  | .unresolved cause => cause.message

namespace Document

def unstyledNames : List String := ["head", "link", "meta", "script", "style", "title"]

def isUnstyled (e : Element) : Bool := unstyledNames.any e.isNamed

def context (d : Document) (id : NodeId) : Except StyleError (List Element) :=
  match d.elementPath id with
  | [] => .error (.notAnElement id)
  | path => .ok path

def styleOf (d : Document) (index : StyleIndex) (id : NodeId) : Except StyleError PropertyMap := do
  let path ← d.context id
  match path.getLast? with
  | none => .error (.notAnElement id)
  | some e =>
      match index.resolve e.name path with
      | .ok sheet => .ok (resolveTexts sheet e.style?)
      | .error cause => .error (.unresolved cause)

def addStyle (d : Document) (index : StyleIndex) (styles : SortedMap NodeId PropertyMap)
    (id : NodeId) : Except ResolveError (SortedMap NodeId PropertyMap) :=
  match d.element? id with
  | none => .ok styles
  | some e =>
      if isUnstyled e then .ok styles
      else
        match d.styleOf index id with
        | .ok map => .ok (styles.insert id map)
        | .error (.notAnElement _) => .ok styles
        | .error (.unresolved cause) => .error cause

/-- The properties of every element that can be shown, by ascending id. -/
def styles (d : Document) (index : StyleIndex) :
    Except ResolveError (SortedMap NodeId PropertyMap) :=
  (d.descendants root).foldlM (d.addStyle index) ∅

end Document

end FlatStyle
