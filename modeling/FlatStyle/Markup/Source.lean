import FlatStyle.Document.Basic

namespace FlatStyle

inductive SourceLabel where
  | document
  | doctype
  | instruction (text : String)
  | element (name : String) (attributes : List (String × String))
  | text (text : String)
  | comment (text : String)

inductive Source where
  | node (label : SourceLabel) (children : List Source)

def SourceLabel.nodeData? : SourceLabel → Option NodeData
  | .element name attributes => some (.element (.ofAttributes name attributes))
  | .text s => some (.text s)
  | .comment s => some (.comment s)
  | .document => none
  | .doctype => none
  | .instruction _ => none

mutual

/-- Adds a tree below `parent`, after its other children. -/
def Document.graft (d : Document) (parent : NodeId) : Source → Document
  | .node label children =>
      match label.nodeData? with
      | none => d
      | some data =>
          let (id, grown) := d.alloc data
          (grown.link parent id).graftAll id children

def Document.graftAll (d : Document) (parent : NodeId) : List Source → Document
  | [] => d
  | source :: sources => (d.graft parent source).graftAll parent sources

end

def Document.ofSources (sources : List Source) : Document :=
  Document.graftAll ∅ Document.root sources

end FlatStyle
