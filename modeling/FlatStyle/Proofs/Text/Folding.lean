import FlatStyle.Proofs.Text.Caseless

/-!
Texts with their ASCII letters made small. Two texts are the same up to the case of ASCII letters
exactly if they fold to the same text, and what cuts a text or puts it into lower case may come
before or after folding.
-/

namespace FlatStyle.Text

def folded (s : List Char) : List Char := s.map Char.toLower

@[simp] theorem folded_nil : folded [] = [] := rfl

@[simp] theorem folded_cons (c : Char) (s : List Char) :
    folded (c :: s) = c.toLower :: folded s := rfl

@[simp] theorem folded_append (s t : List Char) : folded (s ++ t) = folded s ++ folded t :=
  List.map_append

theorem sameLetters_iff {s t : List Char} : sameLetters s t = true ↔ folded s = folded t := by
  fun_induction sameLetters s t with
  | case1 => exact iff_of_true rfl rfl
  | case2 c s d t ih =>
      rw [Bool.and_eq_true, ih, sameLetter, beq_iff_eq, folded_cons, folded_cons, List.cons.injEq]
  | case3 s t hnil hcons =>
      refine iff_of_false nofun fun h => ?_
      rcases s with _ | ⟨c, s⟩ <;> rcases t with _ | ⟨d, t⟩
      · exact hnil rfl rfl
      · cases h
      · cases h
      · exact hcons c s d t rfl rfl

theorem sameLetters_comm (s t : List Char) : sameLetters s t = sameLetters t s := by
  rw [Bool.eq_iff_iff, sameLetters_iff, sameLetters_iff, eq_comm]

theorem folded_of_settled {s : List Char} (h : ∀ c ∈ s, Settled c) : folded s = s :=
  (List.map_congr_left fun c hc => toLower_of_settled (h c hc)).trans (List.map_id s)

theorem length_eq_of_sameLetters {s t : List Char} (h : sameLetters s t = true) :
    s.length = t.length := by
  have hlength := congrArg List.length (sameLetters_iff.1 h)
  rwa [folded, folded, List.length_map, List.length_map] at hlength

/-- A property of characters that says the same of a letter in both cases. -/
def IgnoresCase (p : Char → Bool) : Prop := ∀ c : Char, p c.toLower = p c

/-- Where the letters are all alike, their case does not count. -/
theorem ignoresCase_of_letters {p : Char → Bool} (b : Bool)
    (h : ∀ c : Char, (0x41 ≤ c.toNat ∧ c.toNat ≤ 0x5A) ∨ (0x61 ≤ c.toNat ∧ c.toNat ≤ 0x7A) →
      p c = b) : IgnoresCase p := by
  intro c
  rcases toLower_eq_or_isUpper c with hc | hupper
  · rw [hc]
  · rcases toLower_eq_or_isLower c with hc | hlower
    · rw [hc]
    · rw [h _ (.inr (isLower_iff_toNat.1 hlower)), h c (.inl hupper)]

structure Unlettered (c : Char) : Prop where
  lower : c.isLower = false
  upper : c.toLower = c

instance (c : Char) : Decidable (Unlettered c) :=
  decidable_of_iff (c.isLower = false ∧ c.toLower = c) ⟨fun h => ⟨h.1, h.2⟩, fun h => ⟨h.1, h.2⟩⟩

theorem Unlettered.toLower_eq_iff {c d : Char} (hd : Unlettered d) : c.toLower = d ↔ c = d := by
  constructor
  · intro h
    rcases toLower_eq_or_isLower c with hc | hc
    · rw [← hc, h]
    · rw [h, hd.lower] at hc
      cases hc
  · rintro rfl
    exact hd.upper

theorem eq_of_folded_eq {s t : List Char} (ht : ∀ c ∈ t, Unlettered c)
    (h : folded s = folded t) : s = t := by
  induction t generalizing s with
  | nil => exact List.map_eq_nil_iff.1 h
  | cons d t ih =>
      obtain ⟨hd, ht⟩ := List.forall_mem_cons.1 ht
      cases s with
      | nil => cases h
      | cons c s =>
          obtain ⟨hhead, htail⟩ := List.cons.inj h
          rw [hd.upper, hd.toLower_eq_iff] at hhead
          rw [hhead, ih ht htail]

theorem Unlettered.beq_ignoresCase {d : Char} (hd : Unlettered d) : IgnoresCase (· == d) := by
  intro c
  rw [Bool.eq_iff_iff, beq_iff_eq, beq_iff_eq, hd.toLower_eq_iff]

theorem Unlettered.bne_ignoresCase {d : Char} (hd : Unlettered d) : IgnoresCase (· != d) :=
  fun c => congrArg not (hd.beq_ignoresCase c)

theorem isDigit_iff_toNat {c : Char} : c.isDigit = true ↔ 0x30 ≤ c.toNat ∧ c.toNat ≤ 0x39 := by
  change (decide (c.val ≥ 48) && decide (c.val ≤ 57)) = true ↔ _
  rw [Bool.and_eq_true, decide_eq_true_iff, decide_eq_true_iff]
  exact and_congr UInt32.le_iff_toNat_le UInt32.le_iff_toNat_le

theorem unlettered_of_isDigit {c : Char} (h : c.isDigit = true) : Unlettered c := by
  rw [isDigit_iff_toNat] at h
  refine ⟨Bool.eq_false_iff.2 fun hlower => ?_, ?_⟩
  · rw [isLower_iff_toNat] at hlower
    omega
  · rcases toLower_eq_or_isUpper c with hc | hupper
    · exact hc
    · omega

section Cut

variable {p : Char → Bool} (hp : IgnoresCase p) (s : List Char)

include hp

theorem IgnoresCase.comp_toLower : p ∘ Char.toLower = p := funext hp

theorem takeWhile_folded : (folded s).takeWhile p = folded (s.takeWhile p) := by
  rw [folded, List.takeWhile_map, hp.comp_toLower]
  rfl

theorem dropWhile_folded : (folded s).dropWhile p = folded (s.dropWhile p) := by
  rw [folded, List.dropWhile_map, hp.comp_toLower]
  rfl

theorem fields_folded : fields p (folded s) = (fields p s).map folded := by
  induction s with
  | nil => rfl
  | cons c s ih =>
      rw [folded_cons, fields, fields, hp c, ih]
      split
      · rfl
      · cases fields p s <;> rfl

end Cut

theorem folded_reverse (s : List Char) : folded s.reverse = (folded s).reverse := List.map_reverse

theorem folded_drop (n : Nat) (s : List Char) : folded (s.drop n) = (folded s).drop n :=
  List.map_drop

theorem trim_folded (s : List Char) : trim (folded s) = folded (trim s) := by
  have hblank : IgnoresCase isBlank := isBlank_toLower
  rw [trim, trimStart, dropWhile_folded hblank, trimEnd, ← folded_reverse,
    dropWhile_folded hblank, ← folded_reverse]
  rfl

theorem lines_folded (s : List Char) : lines (folded s) = (lines s).map folded := by
  induction s with
  | nil => rfl
  | cons c s ih =>
      have hfeed : c.toLower = '\n' ↔ c = '\n' := Unlettered.toLower_eq_iff (by decide)
      rw [folded_cons, lines, lines, ih]
      by_cases hc : c = '\n'
      · rw [if_pos (hfeed.2 hc), if_pos hc]
        rfl
      · rw [if_neg (mt hfeed.1 hc), if_neg hc]
        cases lines s <;> rfl

section Piece

variable {piece : List Char} (h : ∀ c ∈ piece, Unlettered c) (s : List Char)

include h

theorem dropPiece?_folded : dropPiece? piece (folded s) = (dropPiece? piece s).map folded := by
  fun_induction dropPiece? piece s with
  | case1 s => cases s <;> rfl
  | case2 => rfl
  | case3 c piece s ih =>
      obtain ⟨hc, hpiece⟩ := List.forall_mem_cons.1 h
      rw [folded_cons, dropPiece?, if_pos hc.upper.symm, ih hpiece]
  | case4 c piece d s hne =>
      have hc : Unlettered c := h c List.mem_cons_self
      have hother : c ≠ d.toLower := fun heq => hne (hc.toLower_eq_iff.1 heq.symm).symm
      rw [folded_cons, dropPiece?, if_neg hother]
      rfl

theorem splitFirst?_folded : splitFirst? piece (folded s) =
    (splitFirst? piece s).map fun parts => (folded parts.1, folded parts.2) := by
  induction s with
  | nil =>
      rw [folded_nil, splitFirst?]
      cases hdrop : dropPiece? piece [] with
      | none => rfl
      | some after =>
          have hafter : after = [] :=
            (List.append_eq_nil_iff.1 (dropPiece?_eq_some_iff.1 hdrop).symm).2
          rw [hafter]
          rfl
  | cons c s ih =>
      have hdrop := dropPiece?_folded h (c :: s)
      rw [folded_cons] at hdrop ⊢
      rw [splitFirst?, splitFirst?, hdrop, ih]
      cases dropPiece? piece (c :: s) with
      | some after => rfl
      | none => cases splitFirst? piece s <;> rfl

end Piece

theorem dropWord?_eq_some_iff {word s rest : List Char} : dropWord? word s = some rest ↔
    ∃ front, folded front = folded word ∧ s = front ++ rest := by
  induction word generalizing s with
  | nil =>
      rw [dropWord?_nil, Option.some_inj]
      constructor
      · rintro rfl
        exact ⟨[], rfl, rfl⟩
      · rintro ⟨front, hfront, rfl⟩
        rw [List.map_eq_nil_iff.1 hfront, List.nil_append]
  | cons c word ih =>
      cases s with
      | nil =>
          refine iff_of_false nofun ?_
          rintro ⟨front, hfront, hs⟩
          rw [(List.append_eq_nil_iff.1 hs.symm).1] at hfront
          cases hfront
      | cons d s =>
          rw [dropWord?]
          constructor
          · intro h
            split at h
            · rename_i hletter
              obtain ⟨front, hfront, rfl⟩ := ih.1 h
              refine ⟨d :: front, ?_, rfl⟩
              rw [folded_cons, folded_cons, hfront, ← beq_iff_eq.1 hletter]
            · cases h
          · rintro ⟨front, hfront, hs⟩
            cases front with
            | nil => cases hfront
            | cons e front =>
                obtain ⟨rfl, rfl⟩ := List.cons.inj hs
                obtain ⟨hletter, hfront⟩ := List.cons.inj hfront
                have hsame : sameLetter c d = true := beq_iff_eq.2 hletter.symm
                rw [if_pos hsame]
                exact ih.2 ⟨front, hfront, rfl⟩

theorem dropWord?_of_sameLetters {word s : List Char} (h : sameLetters word s = true) :
    dropWord? word s = some [] :=
  dropWord?_eq_some_iff.2 ⟨s, (sameLetters_iff.1 h).symm, (List.append_nil s).symm⟩

theorem dropWord?_self (s : List Char) : dropWord? s s = some [] :=
  dropWord?_of_sameLetters (sameLetters_iff.2 rfl)

section Lower

theorem isCased_ignoresCase : IgnoresCase isCased := by
  have hranges : (0x41, 0x5A) ∈ casedRanges ∧ (0x61, 0x7A) ∈ casedRanges := by decide +kernel
  refine ignoresCase_of_letters true fun c hc => ?_
  change (casedRanges.any fun r => r.1 ≤ c.toNat && c.toNat ≤ r.2) = true
  rw [List.any_eq_true]
  rcases hc with hc | hc
  · exact ⟨_, hranges.1, by simpa using hc⟩
  · exact ⟨_, hranges.2, by simpa using hc⟩

theorem isCaseIgnorable_ignoresCase : IgnoresCase isCaseIgnorable := by
  have hranges : ∀ r ∈ caseIgnorableRanges,
      (r.2 < 0x41 ∨ 0x5A < r.1) ∧ (r.2 < 0x61 ∨ 0x7A < r.1) := by
    decide +kernel
  refine ignoresCase_of_letters false fun c hc => ?_
  change (caseIgnorableRanges.any fun r => r.1 ≤ c.toNat && c.toNat ≤ r.2) = false
  rw [List.any_eq_false]
  intro r hr
  have hapart := hranges r hr
  simp only [Bool.and_eq_true, decide_eq_true_eq]
  omega

theorem meetsCased_folded (s : List Char) : meetsCased (folded s) = meetsCased s := by
  rw [meetsCased, dropWhile_folded isCaseIgnorable_ignoresCase, meetsCased]
  cases s.dropWhile isCaseIgnorable with
  | nil => rfl
  | cons c s => exact isCased_ignoresCase c

theorem lowerChar_toLower (c : Char) : lowerChar c.toLower = lowerChar c := by
  rcases toLower_eq_or_isUpper c with hc | hupper
  · rw [hc]
  · have hascii : c.toNat < 0x80 := by omega
    rw [lowerChar, if_pos (toNat_toLower_lt hascii), lowerChar, if_pos hascii, toLower_toLower]

theorem lowerAfter_folded (before s : List Char) :
    lowerAfter (folded before) (folded s) = lowerAfter before s := by
  induction s generalizing before with
  | nil => rfl
  | cons c s ih =>
      have hsigma : c.toLower = 'Σ' ↔ c = 'Σ' := Unlettered.toLower_eq_iff (by decide)
      have hrest : lowerAfter (c.toLower :: folded before) (folded s) =
          lowerAfter (c :: before) s :=
        ih (c :: before)
      have hends : lowerSigma (folded before) (folded s) = lowerSigma before s := by
        rw [lowerSigma, meetsCased_folded, meetsCased_folded, lowerSigma]
      rw [folded_cons, lowerAfter, lowerAfter, hrest, hends, lowerChar_toLower]
      simp only [hsigma]

theorem lower_folded (s : List Char) : lower (folded s) = lower s := lowerAfter_folded [] s

end Lower

theorem utf8Size_toLower (c : Char) : c.toLower.utf8Size = c.utf8Size := by
  rcases toLower_eq_or_isUpper c with hc | hupper
  · rw [hc]
  · have hsmall : ∀ d : Char, d.toNat < 0x80 → d.utf8Size = 1 := fun d hd =>
      Char.utf8Size_eq_one_iff.2 (UInt32.le_iff_toNat_le.2 (Nat.le_of_lt_succ hd))
    rw [hsmall c (by omega), hsmall _ (toNat_toLower_lt (by omega))]

theorem utf8Length_folded (s : List Char) : utf8Length (folded s) = utf8Length s := by
  induction s with
  | nil => rfl
  | cons c s ih => rw [folded_cons, utf8Length_cons, utf8Size_toLower, ih, utf8Length_cons]

end FlatStyle.Text
