import FlatStyle.Proofs.Declaration.Precedence
import FlatStyle.Proofs.Property.Vocabulary
import FlatStyle.Proofs.Resolution.Styles
import FlatStyle.Proofs.SortedMap.Keys

namespace FlatStyle

open Grammar

/-- The decoration lines, and the sides of each border part. -/
def keyGroups : List (List String) :=
  decorationLines.map decorationKey ::
    ["border-width", "border-style", "border-color"].map (sides.map <| sideKey ·)

/-- All keys of a group are among `keys`, or none is. -/
def Grouped (keys : List String) : Prop :=
  ∀ group ∈ keyGroups, group ⊆ keys ∨ ∀ key ∈ group, key ∉ keys

instance (keys : List String) : Decidable (Grouped keys) :=
  inferInstanceAs (Decidable (∀ group ∈ keyGroups, _))

section Grouped

variable {keys others : List String}

theorem grouped_nil : Grouped [] := fun _ _ => .inr fun _ _ => List.not_mem_nil

theorem Grouped.congr (hkeys : Grouped keys) (h : ∀ key, key ∈ others ↔ key ∈ keys) :
    Grouped others := by
  intro group hgroup
  rcases hkeys group hgroup with hwhole | hnone
  · exact .inl fun key hkey => (h key).2 (hwhole hkey)
  · exact .inr fun key hkey hother => hnone key hkey ((h key).1 hother)

theorem Grouped.append (hkeys : Grouped keys) (hothers : Grouped others) :
    Grouped (keys ++ others) := by
  intro group hgroup
  rcases hkeys group hgroup with hwhole | hnone
  · exact .inl (List.Subset.trans hwhole (List.subset_append_left keys others))
  rcases hothers group hgroup with hwhole | hnone'
  · exact .inl (List.Subset.trans hwhole (List.subset_append_right keys others))
  · exact .inr fun key hkey => List.not_mem_append (hnone key hkey) (hnone' key hkey)

theorem grouped_of_apart {apart : List String}
    (hapart : ∀ group ∈ keyGroups, ∀ key ∈ group, key ∉ apart) (hkeys : keys ⊆ apart) :
    Grouped keys :=
  fun group hgroup => .inr fun key hkey hmem => hapart group hgroup key hkey (hkeys hmem)

end Grouped

namespace Grammar

def Reading.keys (r : Reading) : List String := r.writes.map (·.1)

def Groups (g : Grammar) : Prop := ∀ s, Grouped (g s).keys

theorem length_spread {values : List String} (h : values ≠ []) : (spread values).length = 4 := by
  unfold spread
  split <;> simp_all

theorem keys_rectangle (property : String) (token : TokenReader) (s : List Char) :
    (rectangle property token s).keys = [] ∨
      (rectangle property token s).keys = sides.map (sideKey property) := by
  unfold rectangle
  split
  · exact .inl rfl
  · rename_i values rest hne _
    right
    have hlength : (sides.map (sideKey property)).length = (spread values).length :=
      (length_spread hne).symm
    exact List.map_fst_zip (Nat.le_of_eq hlength)

theorem rectangle_groups {property : String} (token : TokenReader)
    (h : Grouped (sides.map (sideKey property))) : Groups (rectangle property token) := by
  intro s
  rcases keys_rectangle property token s with hkeys | hkeys
  · rw [hkeys]
    exact grouped_nil
  · rw [hkeys]
    exact h

theorem eachOnce_groups {gs : List Grammar} (h : ∀ g ∈ gs, Groups g) : Groups (eachOnce gs) := by
  intro s
  fun_induction eachOnce gs s with
  | case1 => exact grouped_nil
  | case2 gs s r others hfirst more ih =>
      obtain ⟨⟨g, hg, rfl⟩, hothers⟩ := of_firstAccepting hfirst
      rw [Reading.keys, List.map_append]
      exact (h g hg s).append (ih fun g hg => h g (hothers hg))

theorem border_groups : Groups border := by
  apply eachOnce_groups
  intro g hg
  simp only [List.mem_cons, List.not_mem_nil, or_false] at hg
  rcases hg with rfl | rfl | rfl
  · exact rectangle_groups _ (by decide)
  · exact rectangle_groups _ (by decide)
  · exact rectangle_groups _ (by decide)

theorem textDecoration_groups : Groups textDecoration := by
  intro s
  have hlines : Grouped (decorationLines.map decorationKey) := by decide
  refine hlines.congr fun key => ?_
  have hkeys : (textDecoration s).keys =
      decorationLines.map decorationKey ++ (decorationWords s).1.map decorationKey := by
    rw [Reading.keys, textDecoration, List.map_append, List.map_map, List.map_map]
    rfl
  rw [hkeys, List.mem_append]
  exact or_iff_left_of_imp fun hon => List.map_subset _ (decorationWords_subset s) hon

end Grammar

theorem Property.grammar_groups (p : Property) : Groups p.grammar := by
  have hkeys : ∀ s, (p.grammar s).keys ⊆ p.emittedKeys := by
    intro s key hkey
    obtain ⟨e, he, rfl⟩ := List.mem_map.1 hkey
    exact mem_emittedKeys he
  cases p with
  | textDecoration => exact textDecoration_groups
  | border => exact border_groups
  | borderWidth => exact rectangle_groups _ (by decide)
  | borderStyle => exact rectangle_groups _ (by decide)
  | borderColor => exact rectangle_groups _ (by decide)
  | _ => exact fun s => grouped_of_apart (by decide) (hkeys s)

theorem Declaration.writes_grouped (d : Declaration) : Grouped (d.writes.map (·.1)) := by
  unfold writes
  split
  · exact Property.grammar_groups _ _
  · exact grouped_nil

namespace PropertyMap

def Grouped (map : PropertyMap) : Prop := FlatStyle.Grouped map.keys

theorem grouped_empty : Grouped ∅ := grouped_nil

theorem Grouped.insertAll {map : PropertyMap} (h : map.Grouped) {es : List (String × String)}
    (hes : FlatStyle.Grouped (es.map (·.1))) : Grouped (map.insertAll es) := by
  refine (h.append hes).congr fun key => ?_
  rw [SortedMap.mem_keys_insertAll, List.mem_append]

theorem Grouped.declare {map : PropertyMap} (h : map.Grouped) (text : String) :
    Grouped (map.declare text) := by
  unfold PropertyMap.declare
  induction Declaration.ofText text generalizing map with
  | nil => exact h
  | cons d ds ih => exact ih (h.insertAll d.writes_grouped)

theorem Grouped.foldl_declare (texts : List String) {map : PropertyMap} (h : map.Grouped) :
    Grouped (texts.foldl PropertyMap.declare map) := by
  induction texts generalizing map with
  | nil => exact h
  | cons text texts ih => exact ih (h.declare text)

theorem grouped_resolveTexts (sheet inline : Option String) :
    Grouped (resolveTexts sheet inline) := by
  unfold resolveTexts
  split
  · exact grouped_empty.declare _
  · exact grouped_empty

end PropertyMap

theorem Document.styles_grouped (d : Document) (index : StyleIndex) :
    ∃ styles, d.styles index = .ok styles ∧ ∀ id, ∀ map ∈ styles.get? id, map.Grouped := by
  obtain ⟨styles, hstyles, hget⟩ := d.foldlM_addStyle_spec index (d.descendants root) ∅
  refine ⟨styles, hstyles, fun id map hmap => ?_⟩
  rw [hget, SortedMap.get?_empty, Option.or_none, Option.mem_def] at hmap
  split at hmap
  · obtain ⟨e, -, rfl⟩ := Option.map_eq_some_iff.1 hmap
    exact PropertyMap.grouped_resolveTexts _ _
  · cases hmap

/-- However declarations are cut short, repeated or mixed, the map that they make out of nothing,
and so the style of every element, has all four keys of a group or none of them. -/
theorem declared_grouped :
    (∀ texts : List String, (texts.foldl PropertyMap.declare ∅).Grouped) ∧
      (∀ sheet inline : Option String, (resolveTexts sheet inline).Grouped) ∧
      ∀ (d : Document) (index : StyleIndex), ∃ styles, d.styles index = .ok styles ∧
        ∀ id, ∀ map ∈ styles.get? id, map.Grouped := by
  refine ⟨?_, PropertyMap.grouped_resolveTexts, Document.styles_grouped⟩
  intro texts
  exact PropertyMap.grouped_empty.foldl_declare texts

end FlatStyle
