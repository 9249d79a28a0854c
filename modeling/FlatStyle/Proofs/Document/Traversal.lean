import FlatStyle.Proofs.Document.Proper

/-!
The way down from a node of a proper tree. The nodes above a node and the levels below it share the
table of nodes, which bounds the depth of what is below: the walk with a stack runs until its stack
is empty and visits the nodes in the order of the recursion over the children.
-/

namespace FlatStyle.Document

open Relation

variable {d : Document}

/-- A node and the nodes below it in at most so many levels, each followed by what is below it. -/
def preorder (d : Document) : Nat → NodeId → List NodeId
  | 0, _ => []
  | n + 1, id => id :: (d.children id).flatMap (d.preorder n)

theorem length_preorder (n : Nat) (id : NodeId) :
    (d.preorder n id).length = d.visitCount n id := by
  induction n generalizing id with
  | zero => rfl
  | succ n ih =>
      have hforest : ∀ ids : List NodeId, (ids.flatMap (d.preorder n)).length + 1 =
          ids.foldr (fun child m => d.visitCount n child + m) 1 := by
        intro ids
        induction ids with
        | nil => rfl
        | cons child ids ihids =>
            rw [List.flatMap_cons, List.length_append, Nat.add_assoc, ihids, ih child]
            rfl
      exact hforest (d.children id)

theorem walk_nil (k : Nat) : d.walk k [] = [] := by
  cases k with
  | zero => rfl
  | succ k => rfl

theorem walk_forest {n : Nat} {ids : List NodeId}
    (h : ∀ id ∈ ids, ∀ k stack, d.walk ((d.preorder n id).length + k) (id :: stack) =
      d.preorder n id ++ d.walk k stack) (k : Nat) (stack : List NodeId) :
    d.walk ((ids.flatMap (d.preorder n)).length + k) (ids ++ stack) =
      ids.flatMap (d.preorder n) ++ d.walk k stack := by
  induction ids with
  | nil => rw [List.flatMap_nil, List.length_nil, Nat.zero_add, List.nil_append, List.nil_append]
  | cons id ids ih =>
      rw [List.flatMap_cons, List.length_append, Nat.add_assoc, List.cons_append,
        h id List.mem_cons_self, ih fun child hchild => h child (List.mem_cons_of_mem id hchild),
        List.append_assoc]

namespace Proper

theorem lt_size_of_child (hd : d.Proper) {id child : NodeId} (h : child ∈ d.children id) :
    child < d.size :=
  lt_size_of_parent? (hd.linked.1 h)

theorem ancestors_of_child (hd : d.Proper) {id child : NodeId} (h : child ∈ d.children id) :
    d.ancestors child = id :: d.ancestors id :=
  hd.ancestors_of_parent? (hd.linked.1 h)

/-- Induction over the levels below a node: where the levels above it and the `n` levels below it
make up the whole table, `n` is not used up before the last level. -/
@[elab_as_elim]
theorem levels_induction (hd : d.Proper) {motive : Nat → NodeId → Prop}
    (step : ∀ n id, (∀ child ∈ d.children id, motive n child) → motive (n + 1) id) {n : Nat}
    {id : NodeId} (hid : id < d.size) (hn : d.size ≤ (d.ancestors id).length + n) :
    motive n id := by
  induction n generalizing id with
  | zero => exact absurd (hd.length_ancestors_lt hid) (Nat.not_lt.2 hn)
  | succ n ih =>
      refine step n id fun child hchild => ih (hd.lt_size_of_child hchild) ?_
      rw [hd.ancestors_of_child hchild, List.length_cons]
      omega

theorem walk_preorder (hd : d.Proper) {n : Nat} {id : NodeId} (hid : id < d.size)
    (hn : d.size ≤ (d.ancestors id).length + n) (k : Nat) (stack : List NodeId) :
    d.walk ((d.preorder n id).length + k) (id :: stack) = d.preorder n id ++ d.walk k stack := by
  revert k stack
  refine hd.levels_induction ?_ hid hn
  intro n id ih k stack
  rw [preorder, List.length_cons, Nat.add_right_comm, walk, walk_forest ih, List.cons_append]

theorem preorder_succ (hd : d.Proper) {n : Nat} {id : NodeId} (hid : id < d.size)
    (hn : d.size ≤ (d.ancestors id).length + n) : d.preorder (n + 1) id = d.preorder n id := by
  refine hd.levels_induction ?_ hid hn
  intro n id ih
  rw [preorder, preorder, List.flatMap_congr ih]

theorem walk_eq_preorder (hd : d.Proper) {id : NodeId} (hid : id < d.size) (k : Nat) :
    d.walk (d.visitCount d.size id + k) [id] = d.preorder d.size id := by
  rw [← length_preorder, hd.walk_preorder hid (Nat.le_add_left _ _), walk_nil, List.append_nil]

theorem descendants_eq_preorder (hd : d.Proper) {id : NodeId} (hid : id < d.size) :
    d.descendants id = d.preorder d.size id :=
  hd.walk_eq_preorder hid 0

theorem descendants_eq (hd : d.Proper) {id : NodeId} (hid : id < d.size) :
    d.descendants id = id :: (d.children id).flatMap d.descendants := by
  obtain ⟨n, hn⟩ : ∃ n, d.size = n + 1 := ⟨d.size - 1, (Nat.sub_add_cancel hd.rooted).symm⟩
  have hchild : ∀ child ∈ d.children id, d.preorder n child = d.descendants child := by
    intro child hchild
    have hsize := hd.lt_size_of_child hchild
    have hlevels : d.size ≤ (d.ancestors child).length + n := by
      rw [hd.ancestors_of_child hchild, List.length_cons]
      omega
    rw [hd.descendants_eq_preorder hsize, ← hd.preorder_succ hsize hlevels, ← hn]
  rw [hd.descendants_eq_preorder hid, hn, preorder, List.flatMap_congr hchild]

end Proper

theorem below_of_mem_preorder (hd : d.Proper) {n : Nat} {id x : NodeId}
    (hx : x ∈ d.preorder n id) : ReflTransGen d.HangsUnder x id := by
  induction n generalizing id with
  | zero => cases hx
  | succ n ih =>
      rcases List.mem_cons.1 hx with rfl | hx
      · exact .refl
      · obtain ⟨child, hchild, hx⟩ := List.mem_flatMap.1 hx
        exact (ih hx).tail (hd.linked.1 hchild)

theorem Proper.mem_descendants_iff (hd : d.Proper) {id x : NodeId} (hid : id < d.size) :
    x ∈ d.descendants id ↔ ReflTransGen d.HangsUnder x id := by
  constructor
  · intro hx
    rw [hd.descendants_eq_preorder hid] at hx
    exact below_of_mem_preorder hd hx
  · intro hx
    induction hx with
    | refl =>
        rw [hd.descendants_eq hid]
        exact List.mem_cons_self
    | tail _ hup ih =>
        rw [hd.descendants_eq hid]
        have hchild := ih (lt_size_of_parent? hup)
        exact List.mem_cons_of_mem _ (List.mem_flatMap.2 ⟨_, hd.linked.2 hup, hchild⟩)

section Children

variable {d' : Document} (h : d.children = d'.children)

include h

theorem visitCount_congr (depth : Nat) : d.visitCount depth = d'.visitCount depth := by
  induction depth with
  | zero => rfl
  | succ depth ih =>
      funext id
      rw [visitCount, h, ih, visitCount]

theorem walk_congr (n : Nat) (stack : List NodeId) : d.walk n stack = d'.walk n stack := by
  induction n generalizing stack with
  | zero => rfl
  | succ n ih =>
      cases stack with
      | nil => rfl
      | cons id stack => rw [walk, h, ih, walk]

theorem descendants_congr (hsize : d.size = d'.size) (id : NodeId) :
    d.descendants id = d'.descendants id := by
  rw [descendants, visitCount_congr h, walk_congr h, hsize, descendants]

end Children

end FlatStyle.Document
