import FlatStyle.Markup.Source

namespace FlatStyle.Markup

structure DraftNode where
  label : SourceLabel
  parent : Option Nat
  children : List Nat

structure Draft where
  nodes : Array DraftNode

namespace Draft

def start : Draft := ⟨#[⟨.document, none, []⟩]⟩

instance : Inhabited Draft := ⟨start⟩

def label (d : Draft) (id : Nat) : SourceLabel :=
  match d.nodes[id]? with
  | some node => node.label
  | none => .document

def children (d : Draft) (id : Nat) : List Nat :=
  match d.nodes[id]? with
  | some node => node.children
  | none => []

def name (d : Draft) (id : Nat) : String :=
  match d.label id with
  | .element name _ => name
  | _ => ""

def append (d : Draft) (parent : Nat) (label : SourceLabel) : Nat × Draft :=
  let id := d.nodes.size
  (id, ⟨(d.nodes.push ⟨label, some parent, []⟩).modify parent fun n =>
    { n with children := n.children ++ [id] }⟩)

def extendLabel (text : String) : SourceLabel → SourceLabel
  | .text before => .text (before ++ text)
  | label => label

def isText (d : Draft) (id : Nat) : Bool :=
  match d.label id with
  | .text _ => true
  | _ => false

/-- Adds text at the end of `parent`, to a text that stands there already. -/
def appendText (d : Draft) (parent : Nat) (text : String) : Draft :=
  match (d.children parent).getLast? with
  | some last =>
      if d.isText last then
        ⟨d.nodes.modify last fun n => { n with label := extendLabel text n.label }⟩
      else (d.append parent (.text text)).2
  | none => (d.append parent (.text text)).2

def detach (d : Draft) (id : Nat) : Draft :=
  match d.nodes[id]? with
  | some ⟨_, some parent, _⟩ =>
      ⟨d.nodes.modify parent fun n => { n with children := n.children.filter (· != id) }⟩
  | _ => d

def addAttributes (d : Draft) (id : Nat) (attributes : List (String × String)) : Draft :=
  ⟨d.nodes.modify id fun n =>
    match n.label with
    | .element name old =>
        let new := attributes.filter fun a => !old.any (·.1 == a.1)
        { n with label := .element name (old ++ new) }
    | _ => n⟩

/-- The tree at `id`, at most `depth` levels below it. A template keeps its contents to itself. -/
def source (d : Draft) : Nat → Nat → Source
  | 0, id => .node (d.label id) []
  | depth + 1, id =>
      .node (d.label id)
        (if d.name id = "template" then [] else (d.children id).map (d.source depth))

def sources (d : Draft) : List Source := (d.children 0).map (d.source d.nodes.size)

end Draft

end FlatStyle.Markup
