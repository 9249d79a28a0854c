import FlatStyle.Proofs.Declaration.Vocabulary
import FlatStyle.Proofs.Text.Caseless

namespace FlatStyle.Declaration

open Text

def ofParts? : List (List Char) → Option Declaration
  | [name, value] => some ⟨String.ofList (lower name), String.ofList (lower (unquote value))⟩
  | _ => none

def parts (candidate : List Char) : List (List Char) := (fields (· == ':') candidate).map trim

theorem ofCandidate?_eq (candidate : List Char) :
    ofCandidate? candidate = ofParts? (parts candidate) := by
  rw [ofCandidate?, parts]
  rcases fields (· == ':') candidate with _ | ⟨name, _ | ⟨value, _ | ⟨other, rest⟩⟩⟩ <;> rfl

section Margins

theorem beq_eq_false_of_isBlank {sep c : Char} (hsep : isBlank sep = false)
    (hc : isBlank c = true) : (c == sep) = false := by
  rw [beq_eq_false_iff_ne]
  rintro rfl
  rw [hsep] at hc
  cases hc

theorem ignoresMargins_parts : IgnoresMargins parts :=
  ignoresMargins_trim.map_fields fun _ => beq_eq_false_of_isBlank (by decide)

theorem ignoresMargins_ofCandidate? : IgnoresMargins ofCandidate? := by
  have h := ignoresMargins_parts.comp ofParts?
  exact ⟨fun s hc => by rw [ofCandidate?_eq, ofCandidate?_eq, h.cons s hc],
    fun s hc => by rw [ofCandidate?_eq, ofCandidate?_eq, h.concat s hc]⟩

theorem ofChars_trim (s : List Char) : ofChars (trim s) = ofChars s := by
  have h : IgnoresMargins fun s => (fields (· == ';') s).map ofCandidate? :=
    ignoresMargins_ofCandidate?.map_fields fun _ => beq_eq_false_of_isBlank (by decide)
  have hjoined := (h.comp fun candidates => candidates.filterMap id).apply_trim s
  simpa only [ofChars, List.filterMap_map, Function.id_comp] using hjoined

end Margins

section Lower

variable {s : List Char} {quote : Char}

theorem caseless_colon : Caseless ':' := caseless_of_ascii (by decide) (by decide) (by decide)

theorem caseless_semicolon : Caseless ';' := caseless_of_ascii (by decide) (by decide) (by decide)

theorem stripQuote?_lower (hq : Caseless quote) (hs : 'Σ' ∉ s) :
    stripQuote? quote (lower s) = (stripQuote? quote s).map lower := by
  cases s with
  | nil => rfl
  | cons c s =>
      have hrest := List.not_mem_of_not_mem_cons hs
      rw [lower_cons hs]
      by_cases hc : c = quote
      · subst hc
        rw [hq.settled, List.singleton_append, stripQuote?, stripQuote?]
        by_cases hlast : s.getLast? = some c
        · have hlower := (getLast?_lower_eq_some_iff hq hrest).2 hlast
          obtain ⟨front, rfl⟩ := List.getLast?_eq_some_iff.1 hlast
          rw [if_pos ⟨rfl, hlower⟩, if_pos ⟨rfl, hlast⟩, lower_append hrest, Option.map_some,
            List.dropLast_concat, lower_eq_self (List.forall_mem_singleton.2 hq.settled),
            List.dropLast_concat]
        · have hlower := mt (getLast?_lower_eq_some_iff hq hrest).1 hlast
          rw [if_neg fun h => hlower h.2, if_neg fun h => hlast h.2, Option.map_none]
      · rw [stripQuote?, if_neg fun h => hc h.1, Option.map_none]
        cases himage : lowerChar c with
        | nil => exact absurd himage (lowerChar_ne_nil c)
        | cons d image =>
            have hd : d ≠ quote := by
              rintro rfl
              exact hc (hq.origin (himage ▸ List.mem_cons_self))
            rw [List.cons_append, stripQuote?, if_neg fun h => hd h.1]

theorem unquote_lower (hs : 'Σ' ∉ s) : unquote (lower s) = lower (unquote s) := by
  have hdouble : Caseless '"' := caseless_of_ascii (by decide) (by decide) (by decide)
  have hsingle : Caseless '\'' := caseless_of_ascii (by decide) (by decide) (by decide)
  rw [unquote, unquote, stripQuote?_lower hdouble hs, stripQuote?_lower hsingle hs]
  cases stripQuote? '"' s with
  | some inner => rfl
  | none => cases stripQuote? '\'' s <;> rfl

theorem ofParts?_lower {parts : List (List Char)} (h : ∀ part ∈ parts, 'Σ' ∉ part) :
    ofParts? (parts.map lower) = ofParts? parts := by
  rcases parts with _ | ⟨name, _ | ⟨value, _ | ⟨other, rest⟩⟩⟩
  · rfl
  · rfl
  · have hvalue := h value (List.mem_cons_of_mem _ List.mem_cons_self)
    simp only [List.map_cons, List.map_nil, ofParts?, lower_lower, unquote_lower hvalue]
  · rfl

theorem parts_lower (hs : 'Σ' ∉ s) : parts (lower s) = (parts s).map lower := by
  rw [parts, fields_lower caseless_colon hs, parts, List.map_map, List.map_map]
  exact List.map_congr_left fun field hfield => trim_lower (not_mem_of_mem_fields hfield hs)

theorem ofCandidate?_lower (hs : 'Σ' ∉ s) : ofCandidate? (lower s) = ofCandidate? s := by
  rw [ofCandidate?_eq, ofCandidate?_eq, parts_lower hs]
  refine ofParts?_lower fun part hpart => ?_
  obtain ⟨field, hfield, rfl⟩ := List.mem_map.1 hpart
  exact fun h => not_mem_of_mem_fields hfield hs (trim_subset field h)

theorem ofChars_lower (hs : 'Σ' ∉ s) : ofChars (lower s) = ofChars s := by
  rw [ofChars, fields_lower caseless_semicolon hs, List.filterMap_map, ofChars]
  exact List.filterMap_congr fun field hfield =>
    ofCandidate?_lower (not_mem_of_mem_fields hfield hs)

/-- A capital sigma is left out because its lower case depends on what follows it, which trimming
may take away. -/
theorem ofChars_normalized (hs : 'Σ' ∉ s) : ofChars (lower (trim s)) = ofChars s := by
  rw [ofChars_lower fun h => hs (trim_subset s h), ofChars_trim]

end Lower

section Short

theorem length_lowerAfter_le (before s : List Char) :
    (lowerAfter before s).length ≤ 2 * s.length := by
  have hchar : ∀ c, (lowerChar c).length ≤ 2 := by
    intro c
    unfold lowerChar
    split
    · exact Nat.le_succ 1
    · split
      · exact Nat.le_refl 2
      · split <;> exact Nat.le_succ 1
  induction s generalizing before with
  | nil => exact Nat.zero_le _
  | cons c s ih =>
      have hrest := ih (c :: before)
      have hfirst := hchar c
      rw [lowerAfter, List.length_append, List.length_cons]
      split
      · rw [List.length_singleton]
        omega
      · omega

theorem length_trim_le (s : List Char) : (trim s).length ≤ s.length := by
  obtain ⟨before, after, -, -, hs⟩ := exists_margins s
  have hlength := congrArg List.length hs
  rw [List.length_append, List.length_append] at hlength
  omega

theorem length_flatten_fields (p : Char → Bool) (s : List Char) :
    (fields p s).flatten.length + (fields p s).length = s.length + 1 := by
  induction s with
  | nil => rfl
  | cons c s ih =>
      cases hc : p c with
      | true =>
          rw [fields_cons_separator hc, List.flatten_cons, List.nil_append, List.length_cons,
            List.length_cons]
          omega
      | false =>
          rw [fields_cons_other hc]
          cases hfields : fields p s with
          | nil => exact absurd hfields (fields_ne_nil p s)
          | cons first others =>
              rw [hfields] at ih
              simp only [List.modifyHead_cons, List.flatten_cons, List.cons_append,
                List.length_cons] at ih ⊢
              omega

theorem length_le_of_mem_fields {p : Char → Bool} {s field : List Char} (h : field ∈ fields p s) :
    field.length ≤ s.length := by
  obtain ⟨front, rest, hfields⟩ := List.append_of_mem h
  have htotal := length_flatten_fields p s
  rw [hfields] at htotal
  simp only [List.flatten_append, List.flatten_cons, List.length_append,
    List.length_cons] at htotal
  omega

theorem four_le_length_name (p : Property) : 4 ≤ p.name.toList.length := by
  have hall : ∀ p ∈ Property.all, 4 ≤ p.name.toList.length := by decide +kernel
  exact hall p p.mem_all

theorem writes_eq_nil_of_length {s : List Char} (hs : s.length ≤ 2) {d : Declaration}
    (hd : d ∈ ofChars s) : d.writes = [] := by
  obtain ⟨candidate, hcandidate, hd⟩ := List.mem_filterMap.1 hd
  have hlength := length_le_of_mem_fields hcandidate
  unfold ofCandidate? at hd
  split at hd
  · rename_i name value hfields
    cases hd
    have htotal := length_flatten_fields (· == ':') candidate
    rw [hfields] at htotal
    simp only [List.flatten_cons, List.length_append, List.length_cons, List.length_nil] at htotal
    have htrim := length_trim_le name
    have hlower := length_lowerAfter_le [] (trim name)
    have hnone : Property.ofName? (String.ofList (lower (trim name))) = none := by
      rw [← Option.not_isSome_iff_eq_none, Option.isSome_iff_exists]
      rintro ⟨p, hp⟩
      have hname := four_le_length_name p
      rw [Property.name_of_ofName? hp, String.toList_ofList, lower] at hname
      omega
    rw [writes, hnone]
  · cases hd

theorem ofChars_blank {s : List Char} (h : Blank s) : ofChars s = [] := by
  rw [← ofChars_trim, trim_eq_nil_iff.2 h]
  rfl

end Short

end FlatStyle.Declaration
