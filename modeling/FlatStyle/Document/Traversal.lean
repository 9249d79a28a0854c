import FlatStyle.Document.Basic

/-!
Walks through a document. The bounds on the walks suffice for every document without a cycle; they
make the walks end on any other.
-/

namespace FlatStyle.Document

def climb (d : Document) : Nat → Option NodeId → List NodeId
  | 0, _ => []
  | _ + 1, none => []
  | n + 1, some id => id :: d.climb n (d.parent? id)

def ancestors (d : Document) (id : NodeId) : List NodeId := d.climb d.size (d.parent? id)

def walk (d : Document) : Nat → List NodeId → List NodeId
  | 0, _ => []
  | _ + 1, [] => []
  | n + 1, id :: stack => id :: d.walk n (d.children id ++ stack)

/-- The number of visits that a walk from `id` makes in at most `depth` levels. -/
def visitCount (d : Document) : Nat → NodeId → Nat
  | 0, _ => 0
  | depth + 1, id => (d.children id).foldr (fun child n => d.visitCount depth child + n) 1

def descendants (d : Document) (id : NodeId) : List NodeId :=
  d.walk (d.visitCount d.size id) [id]

/-- The elements from the outermost one down to `id`, none if `id` is no element. -/
def elementPath (d : Document) (id : NodeId) : List Element :=
  match d.element? id with
  | none => []
  | some e => ((d.ancestors id).filterMap d.element?).reverse ++ [e]

end FlatStyle.Document
