import FlatStyle.Proofs.Document.Proper
import Mathlib.Data.List.Nodup

namespace FlatStyle.Document

open Relation

def data? (d : Document) (id : NodeId) : Option NodeData := (d.node? id).map (·.data)

theorem children_eq_getD (d : Document) (id : NodeId) :
    d.children id = ((d.node? id).map (·.children)).getD [] := by
  rw [children]
  cases d.node? id <;> rfl

section Missing

variable {d : Document} {id : NodeId}

theorem node?_eq_none (h : d.size ≤ id) : d.node? id = none := Array.getElem?_eq_none h

theorem exists_node? (h : id < d.size) : ∃ node, d.node? id = some node :=
  ⟨_, Array.getElem?_eq_getElem h⟩

theorem parent?_eq_none (h : d.size ≤ id) : d.parent? id = none := by
  rw [parent?, node?_eq_none h, Option.bind_none]

end Missing

section Alloc

variable (d : Document) (data : NodeData) (id : NodeId)

theorem node?_alloc : (d.alloc data).2.node? id =
    if id = d.size then some ⟨data, none, []⟩ else d.node? id :=
  Array.getElem?_push

@[simp] theorem parent?_alloc : (d.alloc data).2.parent? id = d.parent? id := by
  rw [parent?, node?_alloc]
  split
  · subst id
    exact (parent?_eq_none (Nat.le_refl _)).symm
  · rfl

@[simp] theorem children_alloc : (d.alloc data).2.children id = d.children id := by
  rw [children_eq_getD, node?_alloc, children_eq_getD]
  split
  · subst id
    rw [node?_eq_none (Nat.le_refl _)]
    rfl
  · rfl

theorem hangsUnder_alloc : (d.alloc data).2.HangsUnder = d.HangsUnder := by
  funext x y
  rw [HangsUnder, parent?_alloc, HangsUnder]

theorem parent?_new : (d.alloc data).2.parent? d.size = none := by
  rw [parent?_alloc, parent?_eq_none (Nat.le_refl _)]

theorem new_lt_size : d.size < (d.alloc data).2.size := by
  rw [size_alloc]
  exact Nat.lt_succ_self _

theorem lt_size_alloc {id : NodeId} (h : id < d.size) : id < (d.alloc data).2.size :=
  Nat.lt_trans h (d.new_lt_size data)

theorem data?_alloc : (d.alloc data).2.data? id =
    if id = d.size then some data else d.data? id := by
  rw [data?, node?_alloc, data?]
  split <;> rfl

end Alloc

section Link

variable {d : Document} {parent child : NodeId}

theorem node?_link (id : NodeId) : (d.link parent child).node? id =
    (d.node? id).map fun node =>
      ⟨node.data, if child = id then some parent else node.parent,
        if parent = id then node.children ++ [child] else node.children⟩ := by
  rw [node?, link, Array.getElem?_modify, Array.getElem?_modify, ← node?]
  by_cases hchild : child = id <;> by_cases hparent : parent = id <;>
    cases d.node? id <;> simp [hchild, hparent]

@[simp] theorem data?_link (id : NodeId) : (d.link parent child).data? id = d.data? id := by
  rw [data?, node?_link, Option.map_map, data?]
  rfl

theorem parent?_link (hchild : child < d.size) (id : NodeId) :
    (d.link parent child).parent? id = if child = id then some parent else d.parent? id := by
  by_cases hid : child = id
  · subst hid
    obtain ⟨node, hnode⟩ := exists_node? hchild
    simp only [parent?, node?_link, hnode, Option.map_some, Option.bind_some, if_true]
  · simp only [parent?, node?_link, Option.bind_map, Function.comp_def, if_neg hid]

theorem children_link (hparent : parent < d.size) (id : NodeId) :
    (d.link parent child).children id =
      if parent = id then d.children id ++ [child] else d.children id := by
  by_cases hid : parent = id
  · subst hid
    obtain ⟨node, hnode⟩ := exists_node? hparent
    simp only [children_eq_getD, node?_link, hnode, Option.map_some, Option.getD_some, if_true]
  · simp only [children_eq_getD, node?_link, Option.map_map, Function.comp_def, if_neg hid]

theorem hangsUnder_link (hchild : child < d.size) {x y : NodeId} :
    (d.link parent child).HangsUnder x y ↔
      (child = x ∧ parent = y) ∨ (child ≠ x ∧ d.HangsUnder x y) := by
  rw [HangsUnder, parent?_link hchild, HangsUnder]
  by_cases hx : child = x <;> simp [hx]

/-- A way up that uses the new step goes up to its lower end and on from its upper end. It uses it
once only, since nothing leads back. -/
theorem above_link (hchild : child < d.size) (hloop : ¬ ReflTransGen d.HangsUnder parent child)
    {x y : NodeId} (h : TransGen (d.link parent child).HangsUnder x y) :
    TransGen d.HangsUnder x y ∨
      (ReflTransGen d.HangsUnder x child ∧ ReflTransGen d.HangsUnder parent y) := by
  induction h with
  | single hstep =>
      rcases (hangsUnder_link hchild).1 hstep with ⟨rfl, rfl⟩ | ⟨-, hstep⟩
      · exact .inr ⟨.refl, .refl⟩
      · exact .inl (.single hstep)
  | tail _ hstep ih =>
      rcases (hangsUnder_link hchild).1 hstep with ⟨rfl, rfl⟩ | ⟨-, hstep⟩
      · rcases ih with hx | ⟨-, hback⟩
        · exact .inr ⟨hx.to_reflTransGen, .refl⟩
        · exact absurd hback hloop
      · exact ih.imp (·.tail hstep) fun hx => ⟨hx.1, hx.2.tail hstep⟩

end Link

namespace Proper

variable {d : Document} {parent child : NodeId}

theorem alloc (hd : d.Proper) (data : NodeData) : (d.alloc data).2.Proper := by
  refine ⟨?_, ?_, ?_, ?_⟩
  · exact d.lt_size_alloc data hd.rooted
  · intro parent child
    rw [children_alloc, hangsUnder_alloc]
    exact hd.linked
  · intro parent
    rw [children_alloc]
    exact hd.nodup parent
  · rw [hangsUnder_alloc]
    exact hd.acyclic

theorem link (hd : d.Proper) (hparent : parent < d.size) (hchild : child < d.size)
    (hfree : d.parent? child = none) (hloop : ¬ ReflTransGen d.HangsUnder parent child) :
    (d.link parent child).Proper := by
  have hunlisted : ∀ above, child ∉ d.children above := by
    intro above h
    have hup := hd.linked.1 h
    rw [HangsUnder, hfree] at hup
    cases hup
  refine ⟨?_, ?_, ?_, ?_⟩
  · rw [size_link]
    exact hd.rooted
  · intro above x
    rw [children_link hparent, hangsUnder_link hchild, ← hd.linked]
    by_cases hx : child = x
    · subst hx
      by_cases habove : parent = above <;> simp [habove, hunlisted]
    · by_cases habove : parent = above <;> simp [habove, hx, Ne.symm hx]
  · intro above
    rw [children_link hparent]
    split
    · rw [← List.concat_eq_append]
      exact List.Nodup.concat (hunlisted above) (hd.nodup above)
    · exact hd.nodup above
  · intro id hcycle
    rcases above_link hchild hloop hcycle with hold | ⟨hdown, hup⟩
    · exact hd.acyclic id hold
    · exact hloop (hup.trans hdown)

theorem link_alloc (hd : d.Proper) (hparent : parent < d.size) (data : NodeData) :
    ((d.alloc data).2.link parent d.size).Proper := by
  refine (hd.alloc data).link (d.lt_size_alloc data hparent) (d.new_lt_size data)
    (d.parent?_new data) fun hup => ?_
  rw [hangsUnder_alloc] at hup
  rcases hup.cases_tail with rfl | ⟨_, -, hstep⟩
  · exact Nat.lt_irrefl _ hparent
  · exact Nat.lt_irrefl _ (hd.parent_lt_size hstep)

end Proper

end FlatStyle.Document
