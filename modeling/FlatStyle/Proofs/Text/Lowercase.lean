import FlatStyle.Text.Lowercase

namespace FlatStyle.Text

theorem isLower_iff_toNat {c : Char} : c.isLower = true ↔ 0x61 ≤ c.toNat ∧ c.toNat ≤ 0x7A := by
  change (decide ('a'.val ≤ c.val) && decide (c.val ≤ 'z'.val)) = true ↔ _
  rw [Bool.and_eq_true, decide_eq_true_iff, decide_eq_true_iff]
  exact and_congr UInt32.le_iff_toNat_le UInt32.le_iff_toNat_le

theorem toLower_eq_or_isUpper (c : Char) :
    c.toLower = c ∨ 0x41 ≤ c.toNat ∧ c.toNat ≤ 0x5A := by
  unfold Char.toLower
  split
  · rename_i h
    exact .inr ⟨UInt32.le_iff_toNat_le.1 h.1, UInt32.le_iff_toNat_le.1 h.2⟩
  · exact .inl rfl

theorem toNat_toLower {c : Char} (hfirst : 0x41 ≤ c.toNat) (hlast : c.toNat ≤ 0x5A) :
    c.toLower.toNat = c.toNat + 0x20 := by
  have hupper : c.val ≥ 'A'.val ∧ c.val ≤ 'Z'.val :=
    ⟨UInt32.le_iff_toNat_le.2 hfirst, UInt32.le_iff_toNat_le.2 hlast⟩
  have hfits : c.toNat + 0x20 < 2 ^ 32 := by omega
  unfold Char.toLower
  rw [dif_pos hupper]
  exact (UInt32.toNat_add _ _).trans (Nat.mod_eq_of_lt hfits)

theorem toLower_eq_or_isLower (c : Char) : c.toLower = c ∨ c.toLower.isLower = true := by
  rcases toLower_eq_or_isUpper c with hc | hupper
  · exact .inl hc
  · rw [isLower_iff_toNat, toNat_toLower hupper.1 hupper.2]
    omega

theorem toNat_toLower_lt {c : Char} (h : c.toNat < 0x80) : c.toLower.toNat < 0x80 := by
  rcases toLower_eq_or_isLower c with hc | hlower
  · rwa [hc]
  · rw [isLower_iff_toNat] at hlower
    omega

theorem caseRuns_target : ∀ run ∈ caseRuns,
    (0x61 ≤ run.target ∧ run.target + (run.last - run.first) ≤ 0x7A) ∨
      (0x80 ≤ run.target ∧ run.target + (run.last - run.first) < 0xD800) ∨
      (0xE000 ≤ run.target ∧ run.target + (run.last - run.first) < 0x110000) := by
  decide +kernel

theorem toNat_ofNat_of_isValidChar {n : Nat} (h : n.isValidChar) : (Char.ofNat n).toNat = n := by
  rw [Char.ofNat, dif_pos h]
  rfl

theorem isLower_or_nonAscii_of_caseRuns {run : CaseRun} (hrun : run ∈ caseRuns) {n : Nat}
    (hn : run.contains n = true) :
    (Char.ofNat (run.lower n)).isLower = true ∨ 0x80 ≤ (Char.ofNat (run.lower n)).toNat := by
  simp only [CaseRun.contains, Bool.and_eq_true, decide_eq_true_eq] at hn
  have hlower : run.target ≤ run.lower n ∧ run.lower n ≤ run.target + (run.last - run.first) := by
    simp only [CaseRun.lower]
    omega
  rcases caseRuns_target run hrun with h | h | h
  · have hvalid : (run.lower n).isValidChar := .inl (by omega)
    left
    rw [isLower_iff_toNat, toNat_ofNat_of_isValidChar hvalid]
    omega
  · have hvalid : (run.lower n).isValidChar := .inl (by omega)
    right
    rw [toNat_ofNat_of_isValidChar hvalid]
    omega
  · have hvalid : (run.lower n).isValidChar := .inr (by omega)
    right
    rw [toNat_ofNat_of_isValidChar hvalid]
    omega

theorem of_mem_lowerChar {c d : Char} (h : c ∈ lowerChar d) :
    c = d ∨ c.isLower = true ∨ 0x80 ≤ c.toNat := by
  unfold lowerChar at h
  split at h
  · rw [List.mem_singleton] at h
    subst h
    exact (toLower_eq_or_isLower d).imp_right .inl
  · split at h
    · rcases List.mem_cons.1 h with rfl | h
      · exact .inr (.inl rfl)
      · rw [List.mem_singleton] at h
        subst h
        exact .inr (.inr (by decide))
    · split at h
      · rename_i run hfind
        rw [List.mem_singleton] at h
        subst h
        have hcontains : run.contains d.toNat = true :=
          List.find?_some (p := fun r : CaseRun => r.contains d.toNat) hfind
        exact .inr (isLower_or_nonAscii_of_caseRuns (List.mem_of_find?_eq_some hfind) hcontains)
      · exact .inl (List.mem_singleton.1 h)

theorem of_mem_lowerAfter {c : Char} {before s : List Char} (h : c ∈ lowerAfter before s) :
    c ∈ s ∨ c.isLower = true ∨ 0x80 ≤ c.toNat := by
  induction s generalizing before with
  | nil => cases h
  | cons d s ih =>
      rw [lowerAfter] at h
      rcases List.mem_append.1 h with h | h
      · split at h
        · rw [List.mem_singleton, lowerSigma] at h
          split at h <;> exact .inr (.inr (h ▸ by decide))
        · rcases of_mem_lowerChar h with rfl | h
          · exact .inl List.mem_cons_self
          · exact .inr h
      · exact (ih h).imp_left (List.mem_cons_of_mem _)

/-- An ASCII character that is no small letter is in the lower case of a text only if it is in the
text. -/
theorem mem_of_mem_lower {c : Char} {s : List Char} (hascii : c.toNat < 0x80)
    (hlower : c.isLower = false) (h : c ∈ lower s) : c ∈ s := by
  rcases of_mem_lowerAfter h with h | h | h
  · exact h
  · rw [hlower] at h
    cases h
  · omega

end FlatStyle.Text
