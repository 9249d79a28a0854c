import FlatStyle.Proofs.Text.Margins

namespace FlatStyle.Text

structure Caseless (c : Char) : Prop where
  settled : Settled c
  origin : ∀ {d : Char}, c ∈ lowerChar d → d = c

theorem caseless_of_ascii {c : Char} (hascii : c.toNat < 0x80) (hupper : c.toLower = c)
    (hlower : c.isLower = false) : Caseless c where
  settled := settled_of_ascii hascii hupper
  origin := by
    intro d hd
    rcases of_mem_lowerChar hd with h | h | h
    · exact h.symm
    · rw [hlower] at h
      cases h
    · omega

theorem lower_cons {c : Char} {s : List Char} (h : 'Σ' ∉ c :: s) :
    lower (c :: s) = lowerChar c ++ lower s := by
  rw [lower_eq_flatMap h, lower_eq_flatMap (List.not_mem_of_not_mem_cons h), List.flatMap_cons]

theorem lower_singleton {c : Char} (h : c ≠ 'Σ') : lower [c] = lowerChar c := by
  rw [lower_cons (by simpa using h.symm), lower_nil, List.append_nil]

section Fields

variable {p : Char → Bool} {sep : Char} {run s : List Char}

theorem fields_run_append (hrun : ∀ c ∈ run, p c = false) (s : List Char) :
    fields p (run ++ s) = (fields p s).modifyHead (run ++ ·) := by
  induction run with
  | nil =>
      rw [List.nil_append]
      cases fields p s <;> rfl
  | cons c run ih =>
      obtain ⟨hc, hrun⟩ := List.forall_mem_cons.1 hrun
      rw [List.cons_append, fields_cons_other hc, ih hrun]
      cases fields p s <;> rfl

theorem not_mem_of_mem_fields {field : List Char} (hfield : field ∈ fields p s) {c : Char}
    (hc : c ∉ s) : c ∉ field :=
  fun h => hc (of_mem_fields hfield h).1

theorem fields_lower (hsep : Caseless sep) (hs : 'Σ' ∉ s) :
    fields (· == sep) (lower s) = (fields (· == sep) s).map lower := by
  induction s with
  | nil => rfl
  | cons c s ih =>
      have hrest := List.not_mem_of_not_mem_cons hs
      rw [lower_cons hs]
      by_cases hc : c = sep
      · have hpos : (c == sep) = true := beq_iff_eq.2 hc
        rw [fields_cons_separator (p := (· == sep)) hpos, hc, hsep.settled, List.singleton_append,
          fields_cons_separator (p := (· == sep)) (beq_self_eq_true sep), ih hrest]
        rfl
      -- What becomes of another character holds no separator and goes before the first field.
      · have hrun : ∀ d ∈ lowerChar c, (d == sep) = false := by
          intro d hd
          rw [beq_eq_false_iff_ne]
          rintro rfl
          exact hc (hsep.origin hd)
        rw [fields_run_append (p := (· == sep)) hrun,
          fields_cons_other (p := (· == sep)) (beq_false_of_ne hc), ih hrest]
        cases hfields : fields (· == sep) s with
        | nil => rfl
        | cons first others =>
            have hfirst : first ∈ fields (· == sep) s := hfields ▸ List.mem_cons_self
            have hsigma : 'Σ' ∉ c :: first :=
              List.not_mem_cons_of_ne_of_not_mem (List.ne_of_not_mem_cons hs)
                (not_mem_of_mem_fields hfirst hrest)
            rw [List.map_cons, List.modifyHead_cons, List.modifyHead_cons, List.map_cons,
              lower_cons hsigma]

end Fields

/-- A caseless character ends a text in lower case where it ends the text. -/
theorem getLast?_lower_eq_some_iff {q : Char} (hq : Caseless q) {s : List Char} (hs : 'Σ' ∉ s) :
    (lower s).getLast? = some q ↔ s.getLast? = some q := by
  rcases List.eq_nil_or_concat s with rfl | ⟨s, c, rfl⟩
  · rfl
  · rw [List.concat_eq_append] at hs ⊢
    have hc : c ≠ 'Σ' := by
      rintro rfl
      exact hs List.mem_concat_self
    rw [lower_append hs, lower_singleton hc,
      List.getLast?_append_of_ne_nil _ (lowerChar_ne_nil c), List.getLast?_concat, Option.some_inj]
    constructor
    · intro h
      exact hq.origin (List.mem_of_mem_getLast? h)
    · rintro rfl
      rw [hq.settled]
      rfl

end FlatStyle.Text
