import FlatStyle.Proofs.Document.Ancestry
import FlatStyle.Proofs.Resolution.Styles
import FlatStyle.Proofs.Text.Split
import FlatStyle.Report.Basic
import Mathlib.Data.List.Forall2

namespace FlatStyle

open Text in
/-- A label spells the name of an element, then every word of its class behind a dot and its id
behind a hash. -/
def Element.Labelled (e : Element) (label : String) : Prop :=
  label.toList = e.name.toList ++
    (e.className?.elim [] fun value =>
      ((value.toList.splitOnP isAsciiBlank).filter (!·.isEmpty)).flatMap ('.' :: ·)) ++
    e.ident?.elim [] ('#' :: ·.toList)

theorem Element.labelled_label (e : Element) : e.Labelled e.label := by
  simp only [Labelled, label, Text.asciiWords, Text.fields_eq_splitOnP]
  cases e.className? <;> cases e.ident? <;> simp [List.flatMap_map]

namespace Document

section Entries

variable (d : Document) (styles : SortedMap NodeId PropertyMap)

def styledNodes : List (NodeId × PropertyMap) :=
  (d.descendants root).filterMap fun id => (styles.get? id).map (id, ·)

def wantedNodes (all : Bool) : List (NodeId × PropertyMap) :=
  (d.styledNodes styles).filter fun entry => all || !entry.2.isEmpty

def entry (node : NodeId × PropertyMap) : ElementStyle :=
  ⟨(d.elementPath node.1).map Element.label, node.2⟩

/-- A report lists these elements: one for each wanted node, in document order, with labels for the
way down to the node and with its style. -/
def Lists (all : Bool) (elements : List ElementStyle) : Prop :=
  ∃ ids : List NodeId, ids.Nodup ∧ ids.Sublist (d.descendants root) ∧
    (∀ id, id ∈ ids ↔ ∃ map, styles.get? id = some map ∧ (all = true ∨ map.isEmpty = false)) ∧
    List.Forall₂ (fun id (element : ElementStyle) => styles.get? id = some element.properties ∧
      ∃ path, d.context id = .ok path ∧ List.Forall₂ Element.Labelled path element.path)
      ids elements

end Entries

theorem mapM_eq_ok {α β ε : Type} {f : α → Except ε β} {g : α → β} {l : List α}
    (h : ∀ x ∈ l, f x = .ok (g x)) : l.mapM f = .ok (l.map g) := by
  induction l with
  | nil => rfl
  | cons x l ih =>
      obtain ⟨hx, hl⟩ := List.forall_mem_cons.1 h
      rw [List.mapM_cons, hx, ih hl]
      rfl

/-- Styles are given to elements below the document node only. -/
def Fits (d : Document) (styles : SortedMap NodeId PropertyMap) : Prop :=
  ∀ id map, styles.get? id = some map → id ∈ d.descendants root ∧ ∃ e, d.element? id = some e

section Listing

variable {d : Document} {styles : SortedMap NodeId PropertyMap}

theorem exists_styles (d : Document) (index : StyleIndex) :
    ∃ styles, d.styles index = .ok styles ∧ d.Fits styles := by
  obtain ⟨styles, hstyles, hget⟩ := d.foldlM_addStyle_spec index (d.descendants root) ∅
  refine ⟨styles, hstyles, fun id map hmap => ?_⟩
  rw [hget, SortedMap.get?_empty, Option.or_none] at hmap
  split at hmap
  · rename_i hid
    obtain ⟨e, -, he, -⟩ := styleAt?_eq_some_iff.1 hmap
    exact ⟨hid, e, he⟩
  · cases hmap

theorem mem_styledNodes {id : NodeId} {map : PropertyMap} :
    (id, map) ∈ d.styledNodes styles ↔ id ∈ d.descendants root ∧ styles.get? id = some map := by
  simp only [styledNodes, List.mem_filterMap, Option.map_eq_some_iff, Prod.mk.injEq]
  constructor
  · rintro ⟨x, hx, map', hmap, rfl, rfl⟩
    exact ⟨hx, hmap⟩
  · rintro ⟨hid, hmap⟩
    exact ⟨id, hid, map, hmap, rfl, rfl⟩

theorem mem_wantedNodes {all : Bool} {id : NodeId} {map : PropertyMap} :
    (id, map) ∈ d.wantedNodes styles all ↔
      (id ∈ d.descendants root ∧ styles.get? id = some map) ∧
        (all = true ∨ map.isEmpty = false) := by
  rw [wantedNodes, List.mem_filter, mem_styledNodes]
  simp

theorem places_sublist : ((d.styledNodes styles).map (·.1)).Sublist (d.descendants root) := by
  rw [styledNodes]
  induction d.descendants root with
  | nil => exact .slnil
  | cons id ids ih =>
      rw [List.filterMap_cons]
      cases styles.get? id with
      | none => exact ih.cons id
      | some map => exact ih.cons_cons id

theorem elementStyles_eq (h : d.Fits styles) (all : Bool) :
    d.elementStyles styles all = .ok ((d.wantedNodes styles all).map d.entry) := by
  refine mapM_eq_ok fun node hnode => ?_
  obtain ⟨⟨-, hmap⟩, -⟩ := mem_wantedNodes.1 hnode
  obtain ⟨-, e, he⟩ := h _ _ hmap
  rw [context_eq he]
  rfl

theorem lists_entries (hd : d.Proper) (h : d.Fits styles) (all : Bool) :
    d.Lists styles all ((d.wantedNodes styles all).map d.entry) := by
  have hsublist : ((d.wantedNodes styles all).map (·.1)).Sublist (d.descendants root) :=
    (List.filter_sublist.map _).trans places_sublist
  refine ⟨(d.wantedNodes styles all).map (·.1), (hd.nodup_descendants hd.rooted).sublist hsublist,
    hsublist, fun id => ?_, ?_⟩
  · rw [List.mem_map]
    constructor
    · rintro ⟨⟨_, map⟩, hnode, rfl⟩
      obtain ⟨⟨-, hmap⟩, hwanted⟩ := mem_wantedNodes.1 hnode
      exact ⟨map, hmap, hwanted⟩
    · rintro ⟨map, hmap, hwanted⟩
      exact ⟨(id, map), mem_wantedNodes.2 ⟨⟨(h id map hmap).1, hmap⟩, hwanted⟩, rfl⟩
  · rw [List.forall₂_map_left_iff, List.forall₂_map_right_iff, List.forall₂_same]
    intro node hnode
    obtain ⟨⟨-, hmap⟩, -⟩ := mem_wantedNodes.1 hnode
    obtain ⟨-, e, he⟩ := h _ _ hmap
    refine ⟨hmap, _, context_eq he, ?_⟩
    rw [entry, List.forall₂_map_right_iff, List.forall₂_same]
    exact fun e _ => e.labelled_label

theorem entries_wanted (all : Bool) : (d.wantedNodes styles all).map d.entry =
    ((d.wantedNodes styles true).map d.entry).filter fun element =>
      all || !element.properties.isEmpty := by
  have hall : d.wantedNodes styles true = d.styledNodes styles :=
    List.filter_eq_self.2 fun _ _ => rfl
  rw [hall, List.filter_map, wantedNodes]
  rfl

end Listing

end Document

end FlatStyle
