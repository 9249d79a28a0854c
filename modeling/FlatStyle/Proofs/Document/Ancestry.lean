import FlatStyle.Proofs.Document.Traversal
import Mathlib.Data.List.Nodup

/-!
The way down against the way up. What is below a node is the recursion over its children, with no
node twice since two children have nothing below them in common; and a node is below another one
exactly when that one is above it.
-/

namespace FlatStyle.Document

open Relation

variable {d : Document}

theorem climb_none (n : Nat) : d.climb n none = [] := by
  cases n <;> rfl

namespace Proper

@[elab_as_elim]
theorem induction_on_children (hd : d.Proper) {motive : NodeId → Prop}
    (step : ∀ id < d.size, (∀ child ∈ d.children id, motive child) → motive id) {id : NodeId}
    (hid : id < d.size) : motive id := by
  refine hd.levels_induction (motive := fun _ id => id < d.size → motive id) ?_ hid
    (Nat.le_add_left _ _) hid
  exact fun _ id ih hid => step id hid fun child h => ih child h (hd.lt_size_of_child h)

theorem ancestors_eq (hd : d.Proper) (id : NodeId) : d.ancestors id =
    match d.parent? id with
    | none => []
    | some parent => parent :: d.ancestors parent := by
  cases hparent : d.parent? id with
  | none => rw [ancestors, hparent, climb_none]
  | some parent => exact hd.ancestors_of_parent? hparent

theorem mem_descendants_iff_mem_ancestors (hd : d.Proper) {id x : NodeId} (hid : id < d.size) :
    x ∈ d.descendants id ↔ x = id ∨ id ∈ d.ancestors x := by
  rw [hd.mem_descendants_iff hid, hd.mem_ancestors_iff, reflTransGen_iff_eq_or_transGen,
    eq_comm (a := id)]

theorem not_below_child (hd : d.Proper) {id child : NodeId} (h : child ∈ d.children id) :
    ¬ ReflTransGen d.HangsUnder id child :=
  fun hup => hd.acyclic id (.tail' hup (hd.linked.1 h))

theorem child_eq_of_below (hd : d.Proper) {id child other : NodeId} (h : child ∈ d.children id)
    (hother : other ∈ d.children id) (hup : ReflTransGen d.HangsUnder child other) :
    child = other := by
  rcases hup.cases_head with heq | ⟨parent, hparent, hup⟩
  · exact heq
  · rw [hangsUnder_rightUnique hparent (hd.linked.1 h)] at hup
    exact absurd hup (hd.not_below_child hother)

theorem disjoint_descendants (hd : d.Proper) {id child other : NodeId} (h : child ∈ d.children id)
    (hother : other ∈ d.children id) (hne : child ≠ other) :
    (d.descendants child).Disjoint (d.descendants other) := by
  intro x hx hx'
  rw [hd.mem_descendants_iff (hd.lt_size_of_child h)] at hx
  rw [hd.mem_descendants_iff (hd.lt_size_of_child hother)] at hx'
  -- There is one way up from `x`, so that one of the two children is above the other.
  rcases hx.total_of_right_unique hangsUnder_rightUnique hx' with hup | hup
  · exact hne (hd.child_eq_of_below h hother hup)
  · exact hne (hd.child_eq_of_below hother h hup).symm

theorem nodup_descendants (hd : d.Proper) {id : NodeId} (hid : id < d.size) :
    (d.descendants id).Nodup := by
  refine hd.induction_on_children ?_ hid
  intro id hid ih
  rw [hd.descendants_eq hid, List.nodup_cons, List.nodup_flatMap]
  refine ⟨fun hself => ?_, ih, ?_⟩
  · obtain ⟨child, hchild, hself⟩ := List.mem_flatMap.1 hself
    rw [hd.mem_descendants_iff (hd.lt_size_of_child hchild)] at hself
    exact hd.not_below_child hchild hself
  · exact (hd.nodup id).imp_of_mem fun h hother hne => hd.disjoint_descendants h hother hne

theorem descendants_unique (hd : d.Proper) {order : NodeId → List NodeId}
    (horder : ∀ id < d.size, order id = id :: (d.children id).flatMap order) {id : NodeId}
    (hid : id < d.size) : d.descendants id = order id := by
  refine hd.induction_on_children ?_ hid
  intro id hid ih
  rw [hd.descendants_eq hid, horder id hid, List.flatMap_congr ih]

theorem walk_length_add (hd : d.Proper) {id : NodeId} (hid : id < d.size) (k : Nat) :
    d.walk ((d.descendants id).length + k) [id] = d.descendants id := by
  rw [hd.descendants_eq_preorder hid, length_preorder, hd.walk_eq_preorder hid]

end Proper

theorem elementPath_eq_nil_iff (d : Document) (id : NodeId) :
    d.elementPath id = [] ↔ d.element? id = none := by
  rw [elementPath]
  cases d.element? id <;> simp

/-- The walk with a stack ends and is the recursion that visits a node and then what is below each
of its children in turn; the only one, since any function that recurs in this way answers the same.
It meets no node twice, and it meets just the nodes that have the node where it started above them
or are that node. Seen from below, the path to an element has the elements above it, outermost
first, and the element itself at its end; only the path to a node that is no element is empty. -/
theorem traversals_dual (hd : d.Proper) {id : NodeId} (hid : id < d.size) :
    (∀ k, d.walk ((d.descendants id).length + k) [id] = d.descendants id) ∧
    d.descendants id = id :: (d.children id).flatMap d.descendants ∧
    (∀ order : NodeId → List NodeId,
      (∀ x < d.size, order x = x :: (d.children x).flatMap order) → d.descendants id = order id) ∧
    (d.descendants id).Nodup ∧
    (∀ x, x ∈ d.descendants id ↔ x = id ∨ id ∈ d.ancestors x) ∧
    (∀ x, d.ancestors x =
      match d.parent? x with
      | none => []
      | some parent => parent :: d.ancestors parent) ∧
    (∀ x e, d.element? x = some e →
      d.elementPath x = ((d.ancestors x).filterMap d.element?).reverse ++ [e]) ∧
    ∀ x, d.elementPath x = [] ↔ d.element? x = none := by
  refine ⟨hd.walk_length_add hid, hd.descendants_eq hid,
    fun _ horder => hd.descendants_unique horder hid, hd.nodup_descendants hid,
    fun _ => hd.mem_descendants_iff_mem_ancestors hid, hd.ancestors_eq, ?_,
    d.elementPath_eq_nil_iff⟩
  intro x e he
  rw [elementPath, he]

def quotedPage : Document :=
  ⟨#[⟨.document, none, [2, 1]⟩,
    ⟨.element (.ofAttributes "p" []), some 0, []⟩,
    ⟨.element (.ofAttributes "blockquote" []), some 0, [4]⟩,
    ⟨.element (.ofAttributes "aside" []), none, []⟩,
    ⟨.text "x", some 2, []⟩]⟩

theorem quotedPage_proper : quotedPage.Proper :=
  proper_of_table (by decide) (by decide) (by decide)

theorem quotedPage_traversals : quotedPage.Proper ∧ root < quotedPage.size ∧
    quotedPage.descendants root = [0, 2, 4, 1] ∧ (quotedPage.descendants root).Nodup ∧
    root ∈ quotedPage.ancestors 4 ∧ root ∉ quotedPage.ancestors 3 ∧
    quotedPage.elementPath 4 = [] := by
  obtain ⟨-, -, -, hnodup, hdual, -, -, hpath⟩ :=
    traversals_dual quotedPage_proper quotedPage_proper.rooted
  have horder : quotedPage.descendants root = [0, 2, 4, 1] := by decide
  have habove : ∀ x, x ≠ root → (root ∈ quotedPage.ancestors x ↔ x ∈ [0, 2, 4, 1]) := by
    intro x hx
    rw [← horder, hdual, or_iff_right hx]
  exact ⟨quotedPage_proper, quotedPage_proper.rooted, horder, hnodup,
    (habove 4 (by decide)).2 (by decide), mt (habove 3 (by decide)).1 (by decide),
    (hpath 4).2 (by rfl)⟩

end FlatStyle.Document
