import FlatStyle.Document.Traversal
import Mathlib.Data.List.Perm.Subperm
import Mathlib.Logic.Relation

/-!
Proper trees, and the way up from a node of one. No node occurs twice on that way, so it is shorter
than the table of nodes and the bound on it is never reached.
-/

namespace FlatStyle.Document

open Relation

variable {d : Document}

def HangsUnder (d : Document) (child parent : NodeId) : Prop := d.parent? child = some parent

instance (d : Document) (child parent : NodeId) : Decidable (d.HangsUnder child parent) :=
  inferInstanceAs (Decidable (d.parent? child = some parent))

/-- Every node is listed at most once, at the parent that it names itself, and none is above
itself. -/
structure Proper (d : Document) : Prop where
  rooted : root < d.size
  linked : ∀ {parent child}, child ∈ d.children parent ↔ d.HangsUnder child parent
  nodup : ∀ parent, (d.children parent).Nodup
  acyclic : ∀ id, ¬ TransGen d.HangsUnder id id

theorem hangsUnder_rightUnique : Relator.RightUnique d.HangsUnder :=
  fun _ _ _ h h' => Option.some.inj (h.symm.trans h')

theorem lt_size_of_parent? {child parent : NodeId} (h : d.HangsUnder child parent) :
    child < d.size := by
  obtain ⟨node, hnode, -⟩ := Option.bind_eq_some_iff.1 h
  exact (Array.getElem?_eq_some_iff.1 hnode).1

theorem lt_size_of_mem_children {child parent : NodeId} (h : child ∈ d.children parent) :
    parent < d.size := by
  cases hnode : d.node? parent with
  | none =>
      rw [children, hnode] at h
      cases h
  | some node => exact (Array.getElem?_eq_some_iff.1 hnode).1

theorem Proper.parent_lt_size (hd : d.Proper) {child parent : NodeId}
    (h : d.HangsUnder child parent) : parent < d.size :=
  lt_size_of_mem_children (hd.linked.2 h)

theorem acyclic_of_parent_lt (h : ∀ child parent, d.HangsUnder child parent → parent < child)
    (id : NodeId) : ¬ TransGen d.HangsUnder id id := by
  have hlt : ∀ {x y}, TransGen d.HangsUnder x y → y < x := by
    intro x y hxy
    induction hxy with
    | single hxy => exact h _ _ hxy
    | tail _ hyz ih => exact Nat.lt_trans (h _ _ hyz) ih
  exact fun hcycle => Nat.lt_irrefl id (hlt hcycle)

theorem proper_of_table (hroot : root < d.size)
    (hchildren : ∀ parent < d.size, (d.children parent).Nodup ∧
      ∀ child ∈ d.children parent, d.HangsUnder child parent)
    (hparent : ∀ child < d.size, ∀ parent ∈ d.parent? child,
      child ∈ d.children parent ∧ parent < child) : d.Proper where
  rooted := hroot
  linked := ⟨fun h => (hchildren _ (lt_size_of_mem_children h)).2 _ h,
    fun h => (hparent _ (lt_size_of_parent? h) _ h).1⟩
  nodup := by
    intro parent
    by_cases hsize : parent < d.size
    · exact (hchildren parent hsize).1
    · rw [List.eq_nil_iff_forall_not_mem.2 fun child h => hsize (lt_size_of_mem_children h)]
      exact List.nodup_nil
  acyclic := acyclic_of_parent_lt fun _ _ h => (hparent _ (lt_size_of_parent? h) _ h).2

theorem proper_empty : (∅ : Document).Proper :=
  proper_of_table (by decide) (by decide) (by decide)

theorem above_of_mem_climb {n : Nat} {id x : NodeId} (hx : x ∈ d.climb n (d.parent? id)) :
    TransGen d.HangsUnder id x := by
  induction n generalizing id with
  | zero => cases hx
  | succ n ih =>
      cases hparent : d.parent? id with
      | none =>
          rw [hparent] at hx
          cases hx
      | some parent =>
          rw [hparent] at hx
          rcases List.mem_cons.1 hx with rfl | hx
          · exact .single hparent
          · exact .head hparent (ih hx)

namespace Proper

theorem nodup_climb (hd : d.Proper) (n : Nat) (id : NodeId) :
    (id :: d.climb n (d.parent? id)).Nodup := by
  induction n generalizing id with
  | zero => exact List.pairwise_singleton _ id
  | succ n ih =>
      refine List.nodup_cons.2 ⟨fun hid => hd.acyclic id (above_of_mem_climb hid), ?_⟩
      cases d.parent? id with
      | none => exact List.nodup_nil
      | some parent => exact ih parent

theorem length_climb_lt (hd : d.Proper) (n : Nat) {id : NodeId} (hid : id < d.size) :
    (d.climb n (d.parent? id)).length < d.size := by
  have hsubset : id :: d.climb n (d.parent? id) ⊆ List.range d.size := by
    intro x hx
    rw [List.mem_range]
    rcases List.mem_cons.1 hx with rfl | hx
    · exact hid
    · obtain ⟨y, -, hy⟩ := TransGen.tail'_iff.1 (above_of_mem_climb hx)
      exact hd.parent_lt_size hy
  have hlength := (List.subperm_of_subset (hd.nodup_climb n id) hsubset).length_le
  rwa [List.length_cons, List.length_range] at hlength

end Proper

theorem climb_length_add {n : Nat} {start : Option NodeId} (h : (d.climb n start).length < n)
    (k : Nat) : d.climb ((d.climb n start).length + k) start = d.climb n start := by
  induction n generalizing start with
  | zero => exact absurd h (Nat.not_lt_zero _)
  | succ n ih =>
      cases start with
      | none =>
          rw [climb, List.length_nil, Nat.zero_add]
          cases k <;> rfl
      | some id =>
          rw [climb, List.length_cons] at h ⊢
          rw [Nat.add_right_comm, climb, ih (Nat.lt_of_succ_lt_succ h)]

namespace Proper

theorem ancestors_of_parent? (hd : d.Proper) {child parent : NodeId}
    (h : d.HangsUnder child parent) : d.ancestors child = parent :: d.ancestors parent := by
  obtain ⟨n, hn⟩ : ∃ n, d.size = n + 1 := ⟨d.size - 1, (Nat.sub_add_cancel hd.rooted).symm⟩
  have hlength := hd.length_climb_lt d.size (hd.parent_lt_size h)
  have hbound : (d.ancestors parent).length + (n - (d.ancestors parent).length) = n := by
    rw [ancestors]
    omega
  have hclimb := climb_length_add hlength (n - (d.ancestors parent).length)
  rw [← ancestors, hbound] at hclimb
  rw [ancestors, h, hn, climb, hclimb]

theorem length_ancestors_lt (hd : d.Proper) {id : NodeId} (hid : id < d.size) :
    (d.ancestors id).length < d.size :=
  hd.length_climb_lt d.size hid

theorem mem_ancestors_iff (hd : d.Proper) {id x : NodeId} :
    x ∈ d.ancestors id ↔ TransGen d.HangsUnder id x := by
  refine ⟨above_of_mem_climb, fun h => ?_⟩
  induction h using TransGen.head_induction_on with
  | single h =>
      rw [hd.ancestors_of_parent? h]
      exact List.mem_cons_self
  | head h _ ih =>
      rw [hd.ancestors_of_parent? h]
      exact List.mem_cons_of_mem _ ih

end Proper

end FlatStyle.Document
