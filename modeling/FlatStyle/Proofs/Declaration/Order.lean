import FlatStyle.Proofs.Declaration.Precedence
import FlatStyle.Proofs.Property.Vocabulary
import Mathlib.Data.List.FinRange
import Mathlib.Data.List.Sort
import Mathlib.Logic.Equiv.Basic

/-!
Declarations in another order. What a map holds under a key is decided by the declarations that may
write this key; any two of them conflict, so that an order that keeps conflicting declarations as
they were gives the same map.
-/

namespace FlatStyle

open Text

/-- Two properties that write under a common key. -/
def Property.Conflicts (p q : Property) : Prop := ∃ key ∈ p.emittedKeys, key ∈ q.emittedKeys

instance (p q : Property) : Decidable (p.Conflicts q) :=
  inferInstanceAs (Decidable (∃ key ∈ p.emittedKeys, _))

/-- A declaration as it is written. A semicolon would end it. -/
structure WrittenDeclaration where
  name : String
  value : String
  unended : ';' ∉ name.toList ∧ ';' ∉ value.toList
  deriving DecidableEq

namespace WrittenDeclaration

def text (w : WrittenDeclaration) : String := w.name ++ ":" ++ w.value

def joined (ws : List WrittenDeclaration) : String := String.intercalate ";" (ws.map text)

def property? (w : WrittenDeclaration) : Option Property :=
  Property.ofName? (String.ofList (lower (trim w.name.toList)))

def Conflicts (w v : WrittenDeclaration) : Prop :=
  ∃ p ∈ w.property?, ∃ q ∈ v.property?, p.Conflicts q

instance (w v : WrittenDeclaration) : Decidable (w.Conflicts v) :=
  inferInstanceAs (Decidable (∃ p ∈ w.property?, ∃ q ∈ v.property?, _))

def mayWrite (key : String) (w : WrittenDeclaration) : Bool :=
  w.property?.any fun p => key ∈ p.emittedKeys

/-- The declarations of one list take places in the other, and those that conflict keep their
order. -/
def Rearranged (ws vs : List WrittenDeclaration) : Prop :=
  ∃ place : Fin ws.length ≃ Fin vs.length, (∀ i, vs[place i] = ws[i]) ∧
    ∀ i j, i < j → ws[i].Conflicts ws[j] → place i < place j

theorem conflicts_of_mayWrite {key : String} {w v : WrittenDeclaration}
    (hw : w.mayWrite key = true) (hv : v.mayWrite key = true) : w.Conflicts v := by
  obtain ⟨p, hp, hkey⟩ := (Option.any_eq_true _ _).1 hw
  obtain ⟨q, hq, hkey'⟩ := (Option.any_eq_true _ _).1 hv
  exact ⟨p, hp, q, hq, key, of_decide_eq_true hkey, of_decide_eq_true hkey'⟩

theorem name_of_mem_ofText {w : WrittenDeclaration} {d : Declaration}
    (hd : d ∈ Declaration.ofText w.text) : d.name = String.ofList (lower (trim w.name.toList)) := by
  have hchars : w.text.toList = w.name.toList ++ ':' :: w.value.toList := by
    simp [text]
  have hwhole : fields (· == ';') w.text.toList = [w.text.toList] := by
    refine fields_eq_singleton fun c hc => ?_
    rw [beq_eq_false_iff_ne]
    rintro rfl
    rw [hchars] at hc
    simp [w.unended] at hc
  rw [Declaration.ofText, Declaration.ofChars, hwhole] at hd
  obtain ⟨candidate, hcandidate, hd⟩ := List.mem_filterMap.1 hd
  rw [List.mem_singleton.1 hcandidate, Declaration.ofCandidate?, hchars,
    fields_append_cons (p := (· == ':')) (beq_self_eq_true ':')] at hd
  split at hd
  · rename_i name value hfields
    cases hd
    rw [(eq_of_fields_append_eq hfields).1]
  · cases hd

theorem mayWrite_of_mem_writesOf {w : WrittenDeclaration} {e : String × String}
    (he : e ∈ Declaration.writesOf w.text) : w.mayWrite e.1 = true := by
  obtain ⟨d, hd, he⟩ := List.mem_flatMap.1 he
  unfold Declaration.writes at he
  split at he
  · rename_i p hp
    rw [name_of_mem_ofText hd] at hp
    exact (Option.any_eq_true _ _).2 ⟨p, hp, decide_eq_true (Property.mem_emittedKeys he)⟩
  · cases he

theorem writesOf_joined (ws : List WrittenDeclaration) :
    Declaration.writesOf (joined ws) = ws.flatMap fun w => Declaration.writesOf w.text := by
  rw [Declaration.writesOf, joined, Declaration.ofText_intercalate, List.flatMap_assoc,
    List.flatMap_map]
  rfl

theorem filter_eq_map_places (ws : List WrittenDeclaration) (p : WrittenDeclaration → Bool) :
    ws.filter p = ((List.finRange ws.length).filter fun i => p ws[i]).map fun i => ws[i] := by
  conv_lhs => rw [← List.map_getElem_finRange ws, List.filter_map]
  rfl

theorem filter_mayWrite_eq {ws vs : List WrittenDeclaration} (h : Rearranged ws vs)
    (key : String) : ws.filter (mayWrite key) = vs.filter (mayWrite key) := by
  obtain ⟨place, hplace, horder⟩ := h
  -- Both lists of places ascend, the first one because these declarations conflict.
  have hplaces : ((List.finRange ws.length).filter fun i => mayWrite key ws[i]).map place =
      (List.finRange vs.length).filter fun j => mayWrite key vs[j] := by
    apply List.Subset.antisymm_of_pairwise (r := (· < ·))
    · rw [List.pairwise_map]
      refine ((List.pairwise_lt_finRange _).filter _).imp_of_mem ?_
      intro i j hi hj hlt
      exact horder i j hlt
        (conflicts_of_mayWrite (List.mem_filter.1 hi).2 (List.mem_filter.1 hj).2)
    · exact (List.pairwise_lt_finRange _).filter _
    · intro j hj
      obtain ⟨i, hi, rfl⟩ := List.mem_map.1 hj
      rw [List.mem_filter, hplace]
      exact ⟨List.mem_finRange _, (List.mem_filter.1 hi).2⟩
    · intro j hj
      obtain ⟨i, rfl⟩ := place.surjective j
      rw [List.mem_filter, hplace] at hj
      exact List.mem_map_of_mem (List.mem_filter.2 ⟨List.mem_finRange i, hj.2⟩)
  calc ws.filter (mayWrite key)
      = ((List.finRange ws.length).filter fun i => mayWrite key ws[i]).map fun i => ws[i] :=
        filter_eq_map_places ws _
    _ = (((List.finRange ws.length).filter fun i => mayWrite key ws[i]).map place).map
          fun j => vs[j] := by
        rw [List.map_map]
        exact List.map_congr_left fun i _ => (hplace i).symm
    _ = vs.filter (mayWrite key) := by
        rw [hplaces, filter_eq_map_places vs]

theorem filter_writesOf_joined (ws : List WrittenDeclaration) (key : String) :
    (Declaration.writesOf (joined ws)).filter (·.1 = key) =
      (ws.filter (mayWrite key)).flatMap fun w =>
        (Declaration.writesOf w.text).filter (·.1 = key) := by
  rw [writesOf_joined]
  induction ws with
  | nil => rfl
  | cons w ws ih =>
      rw [List.flatMap_cons, List.filter_append, ih]
      cases hw : w.mayWrite key with
      | true => rw [List.filter_cons_of_pos hw, List.flatMap_cons]
      | false =>
          have hnone : (Declaration.writesOf w.text).filter (·.1 = key) = [] := by
            refine List.filter_eq_nil_iff.2 fun e he hkey => ?_
            have hmay := mayWrite_of_mem_writesOf he
            rw [of_decide_eq_true hkey, hw] at hmay
            cases hmay
          rw [hnone, List.filter_cons_of_neg (Bool.eq_false_iff.1 hw), List.nil_append]

end WrittenDeclaration

/-- Two texts of the same declarations, with those that conflict in the same order, say the same of
every map. -/
theorem declare_rearranged {ws vs : List WrittenDeclaration}
    (h : WrittenDeclaration.Rearranged ws vs) (map : PropertyMap) :
    map.declare (WrittenDeclaration.joined ws) = map.declare (WrittenDeclaration.joined vs) := by
  apply SortedMap.ext_get?
  intro key
  have hwrites : (Declaration.writesOf (WrittenDeclaration.joined ws)).filter (·.1 = key) =
      (Declaration.writesOf (WrittenDeclaration.joined vs)).filter (·.1 = key) := by
    rw [WrittenDeclaration.filter_writesOf_joined, WrittenDeclaration.filter_mayWrite_eq h,
      ← WrittenDeclaration.filter_writesOf_joined]
  rw [PropertyMap.declare_eq_insertAll, PropertyMap.declare_eq_insertAll,
    SortedMap.get?_insertAll_filter, hwrites, ← SortedMap.get?_insertAll_filter]

def borderThenWidth : List WrittenDeclaration :=
  [⟨"border", " 1px solid", by decide⟩, ⟨" COLOR", "'Red'", by decide⟩,
    ⟨"border-width", "2px 3px x", by decide⟩]

def colorFirst : List WrittenDeclaration :=
  [⟨" COLOR", "'Red'", by decide⟩, ⟨"border", " 1px solid", by decide⟩,
    ⟨"border-width", "2px 3px x", by decide⟩]

theorem borderThenWidth_rearranged :
    WrittenDeclaration.Rearranged borderThenWidth colorFirst ∧
      PropertyMap.declare ∅ "border: 1px solid; COLOR:'Red';border-width:2px 3px x" =
        PropertyMap.declare ∅ " COLOR:'Red';border: 1px solid;border-width:2px 3px x" := by
  have hrearranged : WrittenDeclaration.Rearranged borderThenWidth colorFirst := by
    have hplace : (∀ i : Fin 3, colorFirst[Equiv.swap 0 1 i] = borderThenWidth[i]) ∧
        ∀ i j : Fin 3, i < j → borderThenWidth[i].Conflicts borderThenWidth[j] →
          Equiv.swap 0 1 i < Equiv.swap 0 1 j := by
      decide +kernel
    exact ⟨(Equiv.swap 0 1 : Equiv.Perm (Fin 3)), hplace⟩
  exact ⟨hrearranged, declare_rearranged hrearranged ∅⟩

end FlatStyle
