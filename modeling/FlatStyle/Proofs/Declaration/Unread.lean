import FlatStyle.Proofs.Declaration.Precedence
import FlatStyle.Proofs.Property.Vocabulary

namespace FlatStyle

open Text

namespace Declaration

/-- A text between semicolons that declares nothing. -/
inductive Unread (candidate : List Char) : Prop where
  | malformed (hcolons : candidate.count ':' ≠ 1)
  | unknown {name value : List Char} (hparts : candidate = name ++ ':' :: value)
      (hname : ∀ p : Property, p.name ≠ String.ofList (lower (trim name)))
  | ignored {name value : List Char} {p : Property} (hparts : candidate = name ++ ':' :: value)
      (hname : p.name = String.ofList (lower (trim name))) (hp : p.isIgnored = true)

section Unread

variable {candidate name value : List Char} {d : Declaration}

theorem count_colon (h : ofCandidate? candidate = some d) : candidate.count ':' = 1 := by
  unfold ofCandidate? at h
  split at h
  · rename_i first second hfields
    have hlength := length_fields (· == ':') candidate
    simp only [hfields, List.length_cons, List.length_nil] at hlength
    exact (Nat.succ.inj hlength).symm
  · cases h

theorem name_of_ofCandidate? (h : ofCandidate? (name ++ ':' :: value) = some d) :
    d.name = String.ofList (lower (trim name)) := by
  unfold ofCandidate? at h
  split at h
  · rename_i first second hfields
    rw [fields_append_cons (p := (· == ':')) rfl] at hfields
    obtain ⟨rfl, -⟩ := eq_of_fields_append_eq hfields
    cases h
    rfl
  · cases h

theorem Unread.writes_eq_nil (h : Unread candidate) (hd : ofCandidate? candidate = some d) :
    d.writes = [] := by
  cases h with
  | malformed hcolons => exact absurd (count_colon hd) hcolons
  | unknown hparts hname =>
      subst hparts
      have hunknown : Property.ofName? d.name = none := by
        apply Option.eq_none_iff_forall_ne_some.2
        intro p hp
        apply hname p
        rw [Property.name_of_ofName? hp, name_of_ofCandidate? hd]
      simp [writes, hunknown]
  | ignored hparts hname hp =>
      subst hparts
      simp [writes, name_of_ofCandidate? hd, ← hname, Property.grammar_of_isIgnored hp,
        Grammar.Reading.refused]

theorem Unread.writesOf_eq_nil {text : String} (h : Unread text.toList)
    (hsemicolon : ';' ∉ text.toList) : writesOf text = [] := by
  have hfields : fields (· == ';') text.toList = [text.toList] := by
    apply fields_eq_singleton
    intro c hc
    apply beq_false_of_ne
    rintro rfl
    exact hsemicolon hc
  cases hd : ofCandidate? text.toList with
  | none => simp [writesOf, ofText, ofChars, hfields, hd]
  | some d => simp [writesOf, ofText, ofChars, hfields, hd, h.writes_eq_nil hd]

end Unread

end Declaration

open Declaration in
/-- A declaration that nothing is read from is as if it were not there, whatever its neighbors
are. -/
theorem PropertyMap.declare_unread {text : String} (hsemicolon : ';' ∉ text.toList)
    (h : Unread text.toList) (map : PropertyMap) (before after : String) :
    map.declare (before ++ ";" ++ text ++ ";" ++ after) = map.declare (before ++ ";" ++ after) := by
  rw [declare_eq_insertAll, declare_eq_insertAll]
  apply congrArg map.insertAll
  calc writesOf (before ++ ";" ++ text ++ ";" ++ after)
    _ = writesOf before ++ writesOf text ++ writesOf after := by
        rw [writesOf_append, writesOf_append]
    _ = writesOf (before ++ ";" ++ after) := by
        rw [h.writesOf_eq_nil hsemicolon, List.append_nil, writesOf_append]

open Declaration in
/-- The quotes around the ignored declaration neither open nor close anything. -/
theorem PropertyMap.declare_display :
    ';' ∉ " Display : 'none\"".toList ∧ Unread " Display : 'none\"".toList ∧
      declare ∅ ("clear: \"left" ++ ";" ++ " Display : 'none\"" ++ ";" ++ "width: 1px'") =
        .ofList [("width", "1px")] := by
  have hsemicolon : ';' ∉ " Display : 'none\"".toList := by decide
  have hparts : " Display : 'none\"".toList = " Display ".toList ++ ':' :: " 'none\"".toList := rfl
  have hname : Property.display.name = String.ofList (lower (trim " Display ".toList)) := rfl
  have hunread : Unread " Display : 'none\"".toList := .ignored hparts hname rfl
  refine ⟨hsemicolon, hunread, ?_⟩
  exact (declare_unread hsemicolon hunread ∅ "clear: \"left" "width: 1px'").trans rfl

end FlatStyle
