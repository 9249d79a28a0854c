import FlatStyle.Document.Basic
import FlatStyle.Stylesheet.Sheet

namespace FlatStyle.Document

def styleText (d : Document) (id : NodeId) : List Char :=
  (d.children id).flatMap fun child =>
    match d.node? child with
    | some ⟨.text text, _, _⟩ => text.toList
    | some ⟨.comment text, _, _⟩ => text.toList
    | _ => []

/-- A linked stylesheet is not loaded, which is worth a warning. -/
def linkSheet (e : Element) : Sheet :=
  match e.attribute? "href" with
  | some href => ⟨[], [⟨"CSS", "external stylesheet '" ++ href ++ "' not loaded"⟩]⟩
  | none => ∅

/-- The sheet of the nodes at and below `id`, at most `depth` levels of them. Nothing is looked for
inside `style` and `link` elements. -/
def sheetBelow (d : Document) : Nat → NodeId → Sheet
  | 0, _ => ∅
  | depth + 1, id =>
      let inside := Sheet.concat ((d.children id).map (d.sheetBelow depth))
      match d.element? id with
      | some e =>
          if e.isNamed "link" then linkSheet e
          else if e.isNamed "style" then Sheet.ofText (d.styleText id)
          else inside
      | none => inside

def sheet (d : Document) : Sheet := d.sheetBelow d.size root

end FlatStyle.Document
