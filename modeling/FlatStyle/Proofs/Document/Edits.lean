import FlatStyle.Proofs.Document.Link

namespace FlatStyle.Document

open Relation

inductive Edit where
  | alloc (data : NodeData)
  | append (parent : NodeId) (data : NodeData)
  | appendChild (parent child : NodeId)

def edit (d : Document) : Edit → Except MissingNode Document
  | .alloc data => .ok (d.alloc data).2
  | .append parent data => (d.append parent data).map (·.2)
  | .appendChild parent child => d.appendChild parent child

def editAll (d : Document) (edits : List Edit) : Except MissingNode Document := edits.foldlM edit d

/-- The nodes named by an edit are there, and a node is hung up only while it hangs nowhere, and
never under itself or a node below it. -/
def Permits (d : Document) : Edit → Prop
  | .alloc _ => True
  | .append parent _ => parent < d.size
  | .appendChild parent child => parent < d.size ∧ child < d.size ∧ d.parent? child = none ∧
      child ≠ parent ∧ child ∉ d.ancestors parent

instance (d : Document) : (e : Edit) → Decidable (d.Permits e)
  | .alloc _ => .isTrue trivial
  | .append parent _ => inferInstanceAs (Decidable (parent < d.size))
  | .appendChild parent child => inferInstanceAs (Decidable (parent < d.size ∧ child < d.size ∧
      d.parent? child = none ∧ child ≠ parent ∧ child ∉ d.ancestors parent))

def PermitsAll (d : Document) : List Edit → Prop
  | [] => True
  | e :: edits => d.Permits e ∧ ∀ next, d.edit e = .ok next → next.PermitsAll edits

/-- A later document has the nodes of an earlier one with their data, parents and children; what is
new about them is a parent where there was none, or children after the others. -/
structure GrowsTo (d later : Document) : Prop where
  size_le : d.size ≤ later.size
  data : ∀ id < d.size, later.data? id = d.data? id
  parent : ∀ {child parent}, d.HangsUnder child parent → later.HangsUnder child parent
  children : ∀ id, d.children id <+: later.children id

namespace GrowsTo

theorem refl (d : Document) : d.GrowsTo d where
  size_le := Nat.le_refl _
  data _ _ := rfl
  parent h := h
  children _ := List.prefix_rfl

theorem trans {d later latest : Document} (h : d.GrowsTo later) (h' : later.GrowsTo latest) :
    d.GrowsTo latest where
  size_le := Nat.le_trans h.size_le h'.size_le
  data id hid := (h'.data id (Nat.lt_of_lt_of_le hid h.size_le)).trans (h.data id hid)
  parent hup := h'.parent (h.parent hup)
  children id := (h.children id).trans (h'.children id)

end GrowsTo

section Step

variable {d : Document} {parent child : NodeId}

theorem growsTo_alloc (d : Document) (data : NodeData) : d.GrowsTo (d.alloc data).2 where
  size_le := Nat.le_of_lt (d.new_lt_size data)
  data id hid := by rw [data?_alloc, if_neg (Nat.ne_of_lt hid)]
  parent h := by rwa [hangsUnder_alloc]
  children id := children_alloc d data id ▸ List.prefix_rfl

theorem growsTo_link (hparent : parent < d.size) (hchild : child < d.size)
    (hfree : d.parent? child = none) : d.GrowsTo (d.link parent child) where
  size_le := Nat.le_of_eq (size_link d parent child).symm
  data id _ := data?_link id
  parent {x y} h := by
    refine (hangsUnder_link hchild).2 (.inr ⟨?_, h⟩)
    rintro rfl
    rw [HangsUnder, hfree] at h
    cases h
  children id := by
    rw [children_link hparent]
    split
    · exact List.prefix_append _ _
    · exact List.prefix_rfl

theorem growsTo_link_alloc (hparent : parent < d.size) (data : NodeData) :
    d.GrowsTo ((d.alloc data).2.link parent d.size) :=
  (growsTo_alloc d data).trans
    (growsTo_link (d.lt_size_alloc data hparent) (d.new_lt_size data) (d.parent?_new data))

theorem appendChild_eq_link (hparent : parent < d.size) (hchild : child < d.size) :
    d.appendChild parent child = .ok (d.link parent child) := by
  rw [appendChild, if_pos hparent, if_pos hchild]

theorem append_eq_link (hparent : parent < d.size) (data : NodeData) :
    d.append parent data = .ok (d.size, (d.alloc data).2.link parent d.size) := by
  change Except.map _ ((d.alloc data).2.appendChild parent d.size) = _
  rw [appendChild_eq_link (d.lt_size_alloc data hparent) (d.new_lt_size data)]
  rfl

theorem Proper.exists_edit (hd : d.Proper) {e : Edit} (h : d.Permits e) :
    ∃ next, d.edit e = .ok next ∧ next.Proper ∧ d.GrowsTo next := by
  cases e with
  | alloc data => exact ⟨_, rfl, hd.alloc data, growsTo_alloc d data⟩
  | append parent data =>
      refine ⟨_, ?_, hd.link_alloc h data, growsTo_link_alloc h data⟩
      rw [edit, append_eq_link h]
      rfl
  | appendChild parent child =>
      obtain ⟨hparent, hchild, hfree, hne, hloop⟩ := h
      refine ⟨_, appendChild_eq_link hparent hchild, hd.link hparent hchild hfree fun hup => ?_,
        growsTo_link hparent hchild hfree⟩
      rcases reflTransGen_iff_eq_or_transGen.1 hup with heq | hup
      · exact hne heq
      · exact hloop (hd.mem_ancestors_iff.2 hup)

end Step

section Run

variable {d : Document}

theorem Proper.exists_editAll (hd : d.Proper) {edits : List Edit} (h : d.PermitsAll edits) :
    ∃ final, d.editAll edits = .ok final ∧ final.Proper ∧ d.GrowsTo final := by
  induction edits generalizing d with
  | nil => exact ⟨d, rfl, hd, .refl d⟩
  | cons e edits ih =>
      obtain ⟨next, hnext, hproper, hgrows⟩ := hd.exists_edit h.1
      obtain ⟨final, hfinal, hproper, hlater⟩ := ih hproper (h.2 next hnext)
      refine ⟨final, ?_, hproper, hgrows.trans hlater⟩
      rw [editAll, List.foldlM_cons, hnext]
      exact hfinal

theorem PermitsAll.of_append {before after : List Edit} (h : d.PermitsAll (before ++ after)) :
    d.PermitsAll before ∧ ∀ earlier, d.editAll before = .ok earlier → earlier.PermitsAll after := by
  induction before generalizing d with
  | nil =>
      refine ⟨trivial, fun earlier hearlier => ?_⟩
      cases hearlier
      exact h
  | cons e before ih =>
      refine ⟨⟨h.1, fun next hnext => (ih (h.2 next hnext)).1⟩, fun earlier hearlier => ?_⟩
      rw [editAll, List.foldlM_cons] at hearlier
      cases hnext : d.edit e with
      | error fault =>
          rw [hnext] at hearlier
          cases hearlier
      | ok next =>
          rw [hnext] at hearlier
          exact (ih (h.2 next hnext)).2 earlier hearlier

end Run

/-- Every run of permitted edits on the document node alone succeeds. Afterwards every node is
listed once, at the parent that it names itself, no node is above itself, all links lead to nodes
that are there and every way up ends; and each of the documents on the way has grown into the last
one. -/
theorem editAll_consistent {edits : List Edit} (h : (∅ : Document).PermitsAll edits) :
    ∃ final, (∅ : Document).editAll edits = .ok final ∧
      (∀ child parent, child ∈ final.children parent ↔ final.parent? child = some parent) ∧
      (∀ parent, (final.children parent).Nodup) ∧
      (∀ child parent, final.parent? child = some parent →
        child < final.size ∧ parent < final.size) ∧
      (∀ id, id ∉ final.ancestors id) ∧
      (∀ id < final.size, (final.ancestors id).length < final.size ∧
        ∀ k, final.climb ((final.ancestors id).length + k) (final.parent? id) =
          final.ancestors id) ∧
      ∀ before after, edits = before ++ after →
        ∃ earlier, (∅ : Document).editAll before = .ok earlier ∧
          earlier.editAll after = .ok final ∧ earlier.GrowsTo final := by
  obtain ⟨final, hfinal, hproper, -⟩ := proper_empty.exists_editAll h
  refine ⟨final, hfinal, fun _ _ => hproper.linked, hproper.nodup, ?_, ?_, ?_, ?_⟩
  · exact fun _ _ hup => ⟨lt_size_of_parent? hup, hproper.parent_lt_size hup⟩
  · exact fun id hid => hproper.acyclic id (hproper.mem_ancestors_iff.1 hid)
  · intro id hid
    have hlength := hproper.length_ancestors_lt hid
    exact ⟨hlength, climb_length_add hlength⟩
  · rintro before after rfl
    obtain ⟨hbefore, hafter⟩ := h.of_append
    obtain ⟨earlier, hearlier, hproper, -⟩ := proper_empty.exists_editAll hbefore
    obtain ⟨later, hlater, -, hgrows⟩ := hproper.exists_editAll (hafter earlier hearlier)
    have hrun : (∅ : Document).editAll (before ++ after) = .ok later := by
      rw [editAll, List.foldlM_append, ← editAll, hearlier]
      exact hlater
    obtain rfl : final = later := Except.ok.inj (hfinal.symm.trans hrun)
    exact ⟨earlier, hearlier, hlater, hgrows⟩

def hungParagraph : List Edit :=
  [.append root (.element (.ofAttributes "body" [])), .alloc (.element (.ofAttributes "p" [])),
    .append 2 (.text "x"), .appendChild 1 2]

theorem hungParagraph_consistent : (∅ : Document).PermitsAll hungParagraph ∧
    ∃ final, (∅ : Document).editAll hungParagraph = .ok final ∧ final.parent? 2 = some 1 ∧
      2 ∈ final.children 1 ∧ (final.children 1).Nodup ∧ 3 ∉ final.ancestors 3 ∧
      (final.ancestors 3).length < final.size := by
  have hpermits : (∅ : Document).PermitsAll hungParagraph := by
    refine ⟨by decide, fun _ hnext => ?_⟩
    cases hnext
    refine ⟨trivial, fun _ hnext => ?_⟩
    cases hnext
    refine ⟨by decide, fun _ hnext => ?_⟩
    cases hnext
    exact ⟨by decide, fun _ _ => trivial⟩
  obtain ⟨final, hfinal, hlinked, hnodup, -, hacyclic, hclimb, -⟩ := editAll_consistent hpermits
  have hparent : final.parent? 2 = some 1 ∧ 3 < final.size := by
    cases hfinal
    decide
  exact ⟨hpermits, final, hfinal, hparent.1, (hlinked 2 1).2 hparent.1, hnodup 1, hacyclic 3,
    (hclimb 3 hparent.2).1⟩

end FlatStyle.Document
