import FlatStyle.Proofs.Text.Lowercase
import FlatStyle.Text.Character
import Mathlib.Data.List.Basic

/-!
Lower case a second time. What lower case produces is its own lower case, white space stays as it
is, and a text without a capital sigma is mapped character by character.
-/

namespace FlatStyle.Text

/-- A character that is its own lower case. -/
def Settled (c : Char) : Prop := lowerChar c = [c]

/-- Whether no number that the run produces belongs to the other run: their ranges lie apart, or
they interleave in steps of two. -/
def CaseRun.misses (run other : CaseRun) : Bool :=
  Nat.blt (run.target + (run.last - run.first)) other.first || Nat.blt other.last run.target ||
    other.step == 2 && (run.step == 2 || run.last == run.first) &&
      run.target % 2 != other.first % 2

/-- The one capital outside the table, whose lower case takes two characters. -/
def dottedRun : CaseRun := ⟨0x130, 0x130, 1, 0x69⟩

theorem caseRuns_misses :
    (caseRuns.all fun run => (dottedRun :: caseRuns).all run.misses) = true := by
  decide +kernel

def wideBlankRanges : List (Nat × Nat) :=
  [(0x85, 0x85), (0xA0, 0xA0), (0x1680, 0x1680), (0x2000, 0x200A), (0x2028, 0x2029),
    (0x202F, 0x202F), (0x205F, 0x205F), (0x3000, 0x3000)]

theorem caseRuns_apart_from_blanks : ∀ run ∈ caseRuns, 0x80 ≤ run.first ∧
    ∀ range ∈ (0x9, 0xD) :: (0x20, 0x20) :: wideBlankRanges,
      (range.2 < run.first ∨ run.last < range.1) ∧
        (range.2 < run.target ∨ run.target + (run.last - run.first) < range.1) := by
  decide +kernel

theorem isBlank_iff {c : Char} : isBlank c = true ↔
    ∃ range ∈ (0x9, 0xD) :: (0x20, 0x20) :: wideBlankRanges,
      range.1 ≤ c.toNat ∧ c.toNat ≤ range.2 := by
  simp [isBlank, wideBlankRanges]
  omega

theorem isBlank_eq_false_of_letter {c : Char} (h : 0x41 ≤ c.toNat) (h' : c.toNat ≤ 0x7A) :
    isBlank c = false := by
  simp [isBlank]
  omega

section Run

variable {run other : CaseRun} {n : Nat}

theorem CaseRun.contains_iff : run.contains n = true ↔
    run.first ≤ n ∧ n ≤ run.last ∧ (n - run.first) % run.step = 0 := by
  simp [contains, and_assoc]

theorem CaseRun.le_lower : run.target ≤ run.lower n := Nat.le_add_right _ _

theorem CaseRun.lower_le (hn : run.contains n = true) :
    run.lower n ≤ run.target + (run.last - run.first) := by
  rw [contains_iff] at hn
  simp only [lower]
  omega

theorem CaseRun.not_contains_lower (h : run.misses other = true) (hn : run.contains n = true) :
    other.contains (run.lower n) = false := by
  rw [Bool.eq_false_iff]
  intro hother
  rw [contains_iff] at hn hother
  simp only [misses, lower, Bool.or_eq_true, Bool.and_eq_true, Nat.blt_eq, beq_iff_eq,
    bne_iff_ne] at h hother
  rcases h with (h | h) | ⟨⟨hstep, h | h⟩, hparity⟩
  · omega
  · omega
  -- Runs that interleave take and give numbers of one parity each.
  · rw [h] at hn
    rw [hstep] at hother
    omega
  · rw [hstep] at hother
    omega

theorem toNat_ofNat_lower (hrun : run ∈ caseRuns) (hn : run.contains n = true) :
    (Char.ofNat (run.lower n)).toNat = run.lower n := by
  have hle := run.lower_le hn
  have hge := run.le_lower (n := n)
  refine toNat_ofNat_of_isValidChar ?_
  rcases caseRuns_target run hrun with h | h | h
  · exact .inl (by omega)
  · exact .inl (by omega)
  · exact .inr (by omega)

end Run

theorem toLower_toLower (c : Char) : c.toLower.toLower = c.toLower := by
  rcases toLower_eq_or_isLower c with h | h
  · rw [h, h]
  · rcases toLower_eq_or_isUpper c.toLower with h' | h'
    · exact h'
    · rw [isLower_iff_toNat] at h
      omega

theorem isBlank_toLower (c : Char) : isBlank c.toLower = isBlank c := by
  rcases toLower_eq_or_isUpper c with h | h
  · rw [h]
  · have hlower := toNat_toLower h.1 h.2
    rw [isBlank_eq_false_of_letter (by omega) (by omega),
      isBlank_eq_false_of_letter h.1 (by omega)]

theorem settled_of_not_contains {c : Char} (hascii : c.toNat < 0x80 → c.toLower = c)
    (hruns : ∀ run ∈ dottedRun :: caseRuns, run.contains c.toNat = false) : Settled c := by
  unfold Settled lowerChar
  split
  · rename_i h
    rw [hascii h]
  · split
    · rename_i h
      have hdotted := hruns dottedRun List.mem_cons_self
      rw [h] at hdotted
      exact absurd hdotted (by decide)
    · have hnone : caseRuns.find? (·.contains c.toNat) = none :=
        List.find?_eq_none.2 fun run hrun =>
          Bool.eq_false_iff.1 (hruns run (List.mem_cons_of_mem _ hrun))
      rw [hnone]

theorem settled_of_ascii {c : Char} (h : c.toNat < 0x80) (hc : c.toLower = c) : Settled c := by
  rw [Settled, lowerChar, if_pos h, hc]

theorem toLower_of_settled {c : Char} (h : Settled c) : c.toLower = c := by
  rcases toLower_eq_or_isUpper c with hc | hupper
  · exact hc
  · rw [Settled, lowerChar, if_pos (by omega)] at h
    exact List.head_eq_of_cons_eq h

theorem toLower_eq_self_of_isLower {c : Char} (h : c.isLower = true) : c.toLower = c := by
  rw [isLower_iff_toNat] at h
  rcases toLower_eq_or_isUpper c with hc | hc
  · exact hc
  · omega

theorem mem_lowerChar_cases {c d : Char} (h : c ∈ lowerChar d) :
    d.toNat < 0x80 ∧ c = d.toLower ∨ d = 'İ' ∧ (c = 'i' ∨ c = '\u0307') ∨
      Settled d ∧ c = d ∨
      ∃ run ∈ caseRuns, run.contains d.toNat = true ∧ c = Char.ofNat (run.lower d.toNat) := by
  by_cases hascii : d.toNat < 0x80
  · rw [lowerChar, if_pos hascii, List.mem_singleton] at h
    exact .inl ⟨hascii, h⟩
  by_cases hdotted : d = 'İ'
  · rw [lowerChar, if_neg hascii, if_pos hdotted] at h
    exact .inr (.inl ⟨hdotted, by simpa using h⟩)
  cases hfind : caseRuns.find? (·.contains d.toNat) with
  | none =>
      have hd : Settled d := by rw [Settled, lowerChar, if_neg hascii, if_neg hdotted, hfind]
      rw [hd, List.mem_singleton] at h
      exact .inr (.inr (.inl ⟨hd, h⟩))
  | some run =>
      rw [lowerChar, if_neg hascii, if_neg hdotted, hfind, List.mem_singleton] at h
      have hrun := List.mem_of_find?_eq_some hfind
      have hn : run.contains d.toNat = true :=
        List.find?_some (p := fun r : CaseRun => r.contains d.toNat) hfind
      exact .inr (.inr (.inr ⟨run, hrun, hn, h⟩))

theorem settled_of_mem_lowerChar {c d : Char} (h : c ∈ lowerChar d) : Settled c := by
  rcases mem_lowerChar_cases h with
    ⟨hascii, rfl⟩ | ⟨-, rfl | rfl⟩ | ⟨hd, rfl⟩ | ⟨run, hrun, hn, rfl⟩
  · exact settled_of_ascii (toNat_toLower_lt hascii) (toLower_toLower d)
  · exact settled_of_ascii (by decide) (by decide)
  · unfold Settled
    decide +kernel
  · exact hd
  · refine settled_of_not_contains ?_ ?_
    · intro hascii
      rcases isLower_or_nonAscii_of_caseRuns hrun hn with hlower | hwide
      · exact toLower_eq_self_of_isLower hlower
      · omega
    · intro other hother
      have hmisses := List.all_eq_true.1 (List.all_eq_true.1 caseRuns_misses run hrun) other hother
      rw [toNat_ofNat_lower hrun hn]
      exact CaseRun.not_contains_lower hmisses hn

theorem isBlank_of_mem_lowerChar {c d : Char} (h : c ∈ lowerChar d) : isBlank c = isBlank d := by
  rcases mem_lowerChar_cases h with ⟨-, rfl⟩ | ⟨rfl, rfl | rfl⟩ | ⟨-, rfl⟩ | ⟨run, hrun, hn, rfl⟩
  · exact isBlank_toLower d
  · rfl
  · rfl
  · rfl
  · have hapart := (caseRuns_apart_from_blanks run hrun).2
    have hle := run.lower_le hn
    have hge := run.le_lower (n := d.toNat)
    rw [CaseRun.contains_iff] at hn
    have hc : ¬ isBlank (Char.ofNat (run.lower d.toNat)) = true := by
      rw [isBlank_iff, toNat_ofNat_lower hrun (CaseRun.contains_iff.2 hn)]
      rintro ⟨range, hrange, hblank⟩
      have := (hapart range hrange).2
      omega
    have hd : ¬ isBlank d = true := by
      rw [isBlank_iff]
      rintro ⟨range, hrange, hblank⟩
      have := (hapart range hrange).1
      omega
    rw [Bool.eq_false_iff.2 hc, Bool.eq_false_iff.2 hd]

theorem lowerChar_ne_nil (c : Char) : lowerChar c ≠ [] := by
  unfold lowerChar
  split
  · exact List.cons_ne_nil _ _
  · split
    · exact List.cons_ne_nil _ _
    · split
      · exact List.cons_ne_nil _ _
      · exact List.cons_ne_nil _ _

theorem settled_of_isBlank {c : Char} (h : isBlank c = true) : Settled c := by
  obtain ⟨range, hrange, hc⟩ := isBlank_iff.1 h
  refine settled_of_not_contains ?_ ?_
  · intro _
    rcases toLower_eq_or_isUpper c with hlower | hupper
    · exact hlower
    · rw [isBlank_eq_false_of_letter hupper.1 (by omega)] at h
      cases h
  · intro run hrun
    rw [Bool.eq_false_iff]
    intro hn
    rw [CaseRun.contains_iff] at hn
    rcases List.mem_cons.1 hrun with rfl | hrun
    · have hdotted : c.toNat = 0x130 := Nat.le_antisymm hn.2.1 hn.1
      simp [isBlank, hdotted] at h
    · have := ((caseRuns_apart_from_blanks run hrun).2 range hrange).1
      omega

theorem not_settled_sigma : ¬ Settled 'Σ' := by
  unfold Settled
  decide +kernel

/-- One step of lower case: a character gives one or more settled characters, blanks for a blank and
none for any other. -/
theorem lowerAfter_cons (before : List Char) (c : Char) (s : List Char) :
    ∃ image, image ≠ [] ∧ (∀ d ∈ image, Settled d ∧ isBlank d = isBlank c) ∧
      lowerAfter before (c :: s) = image ++ lowerAfter (c :: before) s := by
  by_cases hsigma : c = 'Σ'
  · subst hsigma
    refine ⟨[lowerSigma before s], List.cons_ne_nil _ _, ?_, rfl⟩
    intro d hd
    rw [List.mem_singleton, lowerSigma] at hd
    have hforms : Settled 'ς' ∧ Settled 'σ' := by
      unfold Settled
      decide +kernel
    split at hd
    · exact hd ▸ ⟨hforms.1, rfl⟩
    · exact hd ▸ ⟨hforms.2, rfl⟩
  · refine ⟨lowerChar c, lowerChar_ne_nil c, ?_, ?_⟩
    · exact fun d hd => ⟨settled_of_mem_lowerChar hd, isBlank_of_mem_lowerChar hd⟩
    · rw [lowerAfter, if_neg hsigma]

theorem settled_of_mem_lowerAfter {c : Char} {before s : List Char}
    (h : c ∈ lowerAfter before s) : Settled c := by
  induction s generalizing before with
  | nil => cases h
  | cons d s ih =>
      obtain ⟨image, -, himage, heq⟩ := lowerAfter_cons before d s
      rw [heq] at h
      rcases List.mem_append.1 h with h | h
      · exact (himage c h).1
      · exact ih h

theorem settled_of_mem_lower {c : Char} {s : List Char} (h : c ∈ lower s) : Settled c :=
  settled_of_mem_lowerAfter h

theorem lowerAfter_eq_flatMap (before : List Char) {s : List Char} (h : 'Σ' ∉ s) :
    lowerAfter before s = s.flatMap lowerChar := by
  induction s generalizing before with
  | nil => rfl
  | cons c s ih =>
      obtain ⟨hc, hs⟩ := List.ne_and_not_mem_of_not_mem_cons h
      rw [lowerAfter, if_neg hc.symm, ih _ hs, List.flatMap_cons]

theorem lower_eq_flatMap {s : List Char} (h : 'Σ' ∉ s) : lower s = s.flatMap lowerChar :=
  lowerAfter_eq_flatMap [] h

theorem lower_append {s t : List Char} (h : 'Σ' ∉ s ++ t) :
    lower (s ++ t) = lower s ++ lower t := by
  rw [lower_eq_flatMap h, lower_eq_flatMap fun hs => h (List.mem_append_left t hs),
    lower_eq_flatMap fun ht => h (List.mem_append_right s ht), List.flatMap_append]

theorem lower_eq_self {s : List Char} (h : ∀ c ∈ s, Settled c) : lower s = s := by
  rw [lower_eq_flatMap fun hsigma => not_settled_sigma (h _ hsigma), List.flatMap_congr h,
    List.flatMap_singleton']

theorem lower_lower (s : List Char) : lower (lower s) = lower s :=
  lower_eq_self fun _ => settled_of_mem_lower

theorem lowerAfter_ne_nil (before : List Char) {s : List Char} (h : s ≠ []) :
    lowerAfter before s ≠ [] := by
  cases s with
  | nil => exact absurd rfl h
  | cons c s =>
      obtain ⟨image, hne, -, heq⟩ := lowerAfter_cons before c s
      rw [heq]
      exact List.append_ne_nil_of_left_ne_nil hne _

theorem lower_eq_nil_iff {s : List Char} : lower s = [] ↔ s = [] := by
  constructor
  · intro h
    by_contra hne
    exact lowerAfter_ne_nil [] hne h
  · rintro rfl
    rfl

end FlatStyle.Text
