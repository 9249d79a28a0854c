import FlatStyle.Document.Element

namespace FlatStyle

abbrev NodeId := Nat

inductive NodeData where
  | document
  | element (element : Element)
  | text (text : String)
  | comment (text : String)

structure Node where
  data : NodeData
  parent : Option NodeId
  children : List NodeId

structure Document where
  nodes : Array Node

structure MissingNode where
  size : Nat
  id : NodeId

def MissingNode.message (e : MissingNode) : String :=
  "index out of bounds: the len is " ++ toString e.size ++ " but the index is " ++ toString e.id

namespace Document

def root : NodeId := 0

def empty : Document := ⟨#[⟨.document, none, []⟩]⟩

instance : EmptyCollection Document := ⟨empty⟩

instance : Inhabited Document := ⟨empty⟩

def size (d : Document) : Nat := d.nodes.size

def node? (d : Document) (id : NodeId) : Option Node := d.nodes[id]?

def parent? (d : Document) (id : NodeId) : Option NodeId := (d.node? id).bind (·.parent)

def children (d : Document) (id : NodeId) : List NodeId :=
  match d.node? id with
  | some node => node.children
  | none => []

def element? (d : Document) (id : NodeId) : Option Element :=
  match d.node? id with
  | some ⟨.element e, _, _⟩ => some e
  | _ => none

def alloc (d : Document) (data : NodeData) : NodeId × Document :=
  (d.size, ⟨d.nodes.push ⟨data, none, []⟩⟩)

/-- Makes `child` the last child of `parent` and `parent` its parent. A child that hangs elsewhere
already stays listed there too. -/
def link (d : Document) (parent child : NodeId) : Document :=
  ⟨(d.nodes.modify parent fun n => { n with children := n.children ++ [child] }).modify child
    fun n => { n with parent := some parent }⟩

/-- The parent is looked for first. -/
def appendChild (d : Document) (parent child : NodeId) : Except MissingNode Document :=
  if parent < d.size then
    if child < d.size then .ok (d.link parent child) else .error ⟨d.size, child⟩
  else .error ⟨d.size, parent⟩

/-- Adds a node as the last child of `parent`; the new node counts where the parent is missing. -/
def append (d : Document) (parent : NodeId) (data : NodeData) :
    Except MissingNode (NodeId × Document) :=
  let (id, d) := d.alloc data
  (d.appendChild parent id).map (id, ·)

@[simp] theorem size_empty : (∅ : Document).size = 1 := rfl

@[simp] theorem size_link (d : Document) (parent child : NodeId) :
    (d.link parent child).size = d.size := by
  simp [link, size]

@[simp] theorem size_alloc (d : Document) (data : NodeData) :
    (d.alloc data).2.size = d.size + 1 := by
  simp [alloc, size]

end Document

end FlatStyle
