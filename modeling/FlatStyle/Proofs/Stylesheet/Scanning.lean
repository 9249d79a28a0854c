import FlatStyle.Proofs.Stylesheet.Comment

namespace FlatStyle.Stylesheet

open Text

def afterClose? : List Char → Option (List Char)
  | [] => none
  | '*' :: '/' :: s => some s
  | _ :: s => afterClose? s

def afterComment? : List Char → Option (List Char)
  | '/' :: '*' :: s => afterClose? s
  | _ => none

section Marks

variable {c : Char} {s after : List Char}

theorem afterClose?_eq_some (h : afterClose? s = some after) :
    ∃ inner, s = inner ++ '*' :: '/' :: after := by
  induction s using afterClose?.induct with
  | case1 => cases h
  | case2 s => exact ⟨[], congrArg ('*' :: '/' :: ·) (Option.some.inj h)⟩
  | case3 c s hother ih =>
      simp only [afterClose?] at h
      obtain ⟨inner, rfl⟩ := ih h
      exact ⟨c :: inner, rfl⟩

theorem afterComment?_eq_some_iff :
    afterComment? s = some after ↔ ∃ inner, s = '/' :: '*' :: inner ∧
      afterClose? inner = some after := by
  unfold afterComment?
  split
  · simp
  · rename_i hother
    simp only [reduceCtorEq, false_iff]
    exact fun ⟨inner, hs, _⟩ => hother inner hs

theorem afterComment?_eq_none (h : ∀ inner, s = '/' :: '*' :: inner → afterClose? inner = none) :
    afterComment? s = none := by
  apply Option.eq_none_iff_forall_ne_some.2
  intro after hafter
  obtain ⟨inner, hs, hclose⟩ := afterComment?_eq_some_iff.1 hafter
  simp [h inner hs] at hclose

theorem length_lt_of_afterComment? (h : afterComment? s = some after) :
    after.length < s.length := by
  obtain ⟨inner, rfl, hclose⟩ := afterComment?_eq_some_iff.1 h
  obtain ⟨skipped, rfl⟩ := afterClose?_eq_some hclose
  simp only [List.length_cons, List.length_append]
  omega

theorem afterClose?_tail (h : afterClose? (c :: s) = none) : afterClose? s = none := by
  unfold afterClose? at h
  split at h
  · contradiction
  · contradiction
  · rename_i heq
    obtain ⟨rfl, rfl⟩ := List.cons.inj heq
    exact h

theorem afterClose?_eq_map (s : List Char) :
    afterClose? s = (splitFirst? ['*', '/'] s).map Prod.snd := by
  induction s using afterClose?.induct with
  | case1 => rfl
  | case2 s => rfl
  | case3 c s hother ih =>
      have hdrop : dropPiece? ['*', '/'] (c :: s) = none := by
        apply Option.eq_none_iff_forall_ne_some.2
        intro after hafter
        obtain ⟨rfl, rfl⟩ := List.cons.inj (dropPiece?_eq_some_iff.1 hafter)
        exact hother after rfl rfl
      simp [afterClose?, splitFirst?, hdrop, ih, Function.comp_def]

theorem afterClose?_ne_none (inner after : List Char) :
    afterClose? (inner ++ '*' :: '/' :: after) ≠ none := by
  induction inner with
  | nil => simp [afterClose?]
  | cons c inner ih => exact fun h => ih (afterClose?_tail h)

end Marks

/-- Passes over the comments of a line and copies the other characters. -/
def scanLine : List Char → List Char
  | [] => []
  | c :: s =>
      match _comment : afterComment? (c :: s) with
      | some after => scanLine after
      | none => c :: scanLine s
termination_by line => line.length
decreasing_by
  · exact length_lt_of_afterComment? _comment
  · exact Nat.lt_succ_self _

/-- A comment opens on the line and is closed on it. -/
def Commented (line : List Char) : Prop :=
  ∃ before inner after, line = before ++ '/' :: '*' :: (inner ++ '*' :: '/' :: after)

section Scan

variable {c : Char} {s line before inner after : List Char}

@[simp] theorem scanLine_nil : scanLine [] = [] := by simp [scanLine]

theorem scanLine_comment (h : afterComment? s = some after) : scanLine s = scanLine after := by
  cases s with
  | nil => cases h
  | cons c s =>
      rw [scanLine]
      split
      · rename_i hafter
        rw [h] at hafter
        rw [Option.some.inj hafter]
      · rename_i hnone
        rw [h] at hnone
        cases hnone

theorem scanLine_other (h : afterComment? (c :: s) = none) :
    scanLine (c :: s) = c :: scanLine s := by
  rw [scanLine]
  split
  · rename_i hafter
    rw [h] at hafter
    cases hafter
  · rfl

theorem scanLine_sublist (line : List Char) : (scanLine line).Sublist line := by
  fun_induction scanLine line with
  | case1 => exact List.Sublist.refl []
  | case2 c s after hafter ih =>
      obtain ⟨inner, hs, hclose⟩ := afterComment?_eq_some_iff.1 hafter
      obtain ⟨skipped, rfl⟩ := afterClose?_eq_some hclose
      apply ih.trans
      have hsuffix : after <:+ '/' :: '*' :: (skipped ++ '*' :: '/' :: after) :=
        ⟨'/' :: '*' :: (skipped ++ ['*', '/']), by simp⟩
      rw [hs]
      exact hsuffix.sublist
  | case3 c s _ ih => exact ih.cons_cons c

theorem scanLine_eq_self_iff : scanLine line = line ↔ ¬ Commented line := by
  induction line with
  | nil => simp [Commented]
  | cons c s ih =>
      cases hfront : afterComment? (c :: s) with
      | some after =>
          have hshorter := (scanLine_sublist after).length_le
          have hlength := length_lt_of_afterComment? hfront
          obtain ⟨inner, hs, hclose⟩ := afterComment?_eq_some_iff.1 hfront
          obtain ⟨skipped, rfl⟩ := afterClose?_eq_some hclose
          rw [scanLine_comment hfront]
          apply iff_of_false
          · intro heq
            rw [heq] at hshorter
            omega
          · exact not_not_intro ⟨[], skipped, after, hs⟩
      | none =>
          rw [scanLine_other hfront, List.cons_inj_right, ih]
          apply not_congr
          constructor
          · intro ⟨before, inner, after, hs⟩
            exact ⟨c :: before, inner, after, congrArg (c :: ·) hs⟩
          · intro ⟨before, inner, after, hs⟩
            cases before with
            | nil =>
                rw [hs] at hfront
                exact absurd hfront (afterClose?_ne_none inner after)
            | cons d before => exact ⟨before, inner, after, (List.cons.inj hs).2⟩

theorem scanLine_unclosed (h : afterClose? s = none) : scanLine s = s := by
  apply scanLine_eq_self_iff.2
  intro ⟨before, inner, after, hs⟩
  apply afterClose?_ne_none (before ++ '/' :: '*' :: inner) after
  simpa [hs] using h

theorem scanLine_opened (h : splitFirst? ['/', '*'] line = some (before, inner)) :
    scanLine line = before ++ scanLine ('/' :: '*' :: inner) := by
  induction line generalizing before with
  | nil => cases h
  | cons c s ih =>
      unfold splitFirst? at h
      split at h
      · rename_i hdrop
        cases h
        rw [dropPiece?_eq_some_iff.1 hdrop]
        rfl
      · rename_i hdrop
        obtain ⟨⟨front, inner⟩, hfirst, heq⟩ := Option.map_eq_some_iff.1 h
        cases heq
        have hnone : afterComment? (c :: s) = none := by
          apply afterComment?_eq_none
          intro t hs
          have hfound : dropPiece? ['/', '*'] (c :: s) = some t := dropPiece?_eq_some_iff.2 hs
          simp [hdrop] at hfound
        rw [scanLine_other hnone, ih hfirst, List.cons_append]

theorem stripLine_eq_scanLine (line : List Char) : stripLine line = scanLine line := by
  fun_induction stripLine line with
  | case1 line hopen =>
      symm
      apply scanLine_eq_self_iff.2
      intro ⟨before, inner, after, hline⟩
      apply splitFirst?_eq_none_iff.1 hopen
      exact ⟨before, inner ++ '*' :: '/' :: after, by simp [hline]⟩
  | case2 line before inner hopen hclose =>
      have hinner : afterClose? inner = none := by
        simp [afterClose?_eq_map, hclose]
      have hfront : afterComment? ('/' :: '*' :: inner) = none := hinner
      calc line
        _ = before ++ '/' :: '*' :: inner := by
            simp [eq_append_of_splitFirst? hopen]
        _ = before ++ scanLine ('/' :: '*' :: inner) := by
            rw [scanLine_other hfront, scanLine_other rfl, scanLine_unclosed hinner]
        _ = scanLine line := (scanLine_opened hopen).symm
  | case3 line before inner hopen skipped after hclose ih =>
      have hafter : afterComment? ('/' :: '*' :: inner) = some after := by
        simp [afterComment?, afterClose?_eq_map, hclose]
      rw [scanLine_opened hopen, scanLine_comment hafter, ih]

end Scan

section Lines

variable {front : List Char}

theorem afterClose?_concat (s : List Char) :
    afterClose? (s ++ ['\n']) = (afterClose? s).map (· ++ ['\n']) := by
  induction s using afterClose?.induct with
  | case1 => rfl
  | case2 s => rfl
  | case3 c s hother ih =>
      have hnext : ∀ t, c = '*' → s ++ ['\n'] = '/' :: t → False := by
        intro t hc hs
        cases s with
        | nil => cases hs
        | cons d s => exact hother s hc (congrArg (· :: s) (List.cons.inj hs).1)
      rw [List.cons_append, afterClose?.eq_3 _ _ hnext, afterClose?.eq_3 _ _ hother, ih]

theorem afterComment?_concat (s : List Char) :
    afterComment? (s ++ ['\n']) = (afterComment? s).map (· ++ ['\n']) := by
  cases hfront : afterComment? s with
  | some after =>
      obtain ⟨inner, rfl, hclose⟩ := afterComment?_eq_some_iff.1 hfront
      simp [afterComment?, afterClose?_concat, hclose]
  | none =>
      apply afterComment?_eq_none
      intro inner hs
      cases s with
      | nil => cases hs
      | cons c s =>
          cases s with
          | nil => cases hs
          | cons d s =>
              cases hs
              have hclose : afterClose? s = none := hfront
              simp [afterClose?_concat, hclose]

theorem scanLine_concat (line : List Char) :
    scanLine (line ++ ['\n']) = scanLine line ++ ['\n'] := by
  fun_induction scanLine line with
  | case1 => rw [List.nil_append, scanLine_other rfl, scanLine_nil]
  | case2 c s after hafter ih =>
      have hconcat := afterComment?_concat (c :: s)
      rw [hafter] at hconcat
      rw [scanLine_comment hconcat, ih]
  | case3 c s hnone ih =>
      have hconcat : afterComment? (c :: (s ++ ['\n'])) = none := by
        simpa [hnone] using afterComment?_concat (c :: s)
      rw [List.cons_append, scanLine_other hconcat, ih, List.cons_append]

theorem stripComments_last (h : '\n' ∉ front) : stripComments front = scanLine front := by
  cases front with
  | nil => simp [stripComments, lines]
  | cons c front =>
      simp [stripComments, lines_last h (List.cons_ne_nil c front), stripLine_eq_scanLine]

theorem stripComments_line (h : '\n' ∉ front) (rest : List Char) :
    stripComments (front ++ '\n' :: rest) = scanLine front ++ '\n' :: stripComments rest := by
  simp [stripComments, lines_line h, stripLine_eq_scanLine, scanLine_concat]

theorem flatMap_scanLine_sublist (ls : List (List Char)) :
    (ls.flatMap scanLine).Sublist ls.flatten := by
  induction ls with
  | nil => exact List.Sublist.refl []
  | cons line ls ih => exact (scanLine_sublist line).append ih

theorem flatMap_scanLine_eq_flatten_iff {ls : List (List Char)} :
    ls.flatMap scanLine = ls.flatten ↔ ∀ line ∈ ls, ¬ Commented line := by
  induction ls with
  | nil => simp
  | cons line ls ih =>
      rw [List.flatMap_cons, List.flatten_cons, List.forall_mem_cons, ← ih,
        ← scanLine_eq_self_iff]
      constructor
      · intro h
        have hlength := congrArg List.length h
        have hline := (scanLine_sublist line).length_le
        have hrest := (flatMap_scanLine_sublist ls).length_le
        simp only [List.length_append] at hlength
        exact List.append_inj h (by omega)
      · intro ⟨hline, hrest⟩
        rw [hline, hrest]

theorem stripComments_eq_flatMap (s : List Char) :
    stripComments s = (lines s).flatMap scanLine := by
  rw [stripComments, funext stripLine_eq_scanLine]

theorem stripComments_eq_self_iff (s : List Char) :
    stripComments s = s ↔ ∀ line ∈ lines s, ¬ Commented line := by
  calc stripComments s = s
    _ ↔ (lines s).flatMap scanLine = (lines s).flatten := by
        rw [stripComments_eq_flatMap, flatten_lines]
    _ ↔ ∀ line ∈ lines s, ¬ Commented line := flatMap_scanLine_eq_flatten_iff

theorem count_scanLine (h : '\n' ∉ front) : (scanLine front).count '\n' = 0 :=
  List.count_eq_zero.2 fun hmem => h ((scanLine_sublist front).subset hmem)

end Lines

/-- Stripping reads each line from left to right. It keeps every line feed, and changes a text
exactly if one of its lines holds a whole comment. -/
theorem stripComments_scanned :
    (∀ s, stripComments s = (lines s).flatMap scanLine) ∧
      (∀ s t, stripComments (s ++ '\n' :: t) = stripComments s ++ '\n' :: stripComments t) ∧
      (∀ s, (stripComments s).count '\n' = s.count '\n') ∧
      ∀ s, stripComments s = s ↔ ∀ line ∈ lines s, ¬ Commented line := by
  refine ⟨stripComments_eq_flatMap, ?_, ?_, stripComments_eq_self_iff⟩
  · intro s t
    induction s using line_induction with
    | last s h => rw [stripComments_line h, stripComments_last h]
    | line front rest h ih =>
        simp only [stripComments_line h, List.append_assoc, List.cons_append, ih]
  · intro s
    induction s using line_induction with
    | last s h => simp [stripComments_last h, count_scanLine h, List.count_eq_zero.2 h]
    | line front rest h ih =>
        simp [stripComments_line h, count_scanLine h, List.count_eq_zero.2 h, ih]

/-- Two openings before one close make one comment, and `/*/` makes none. -/
example : stripComments "a/*b/*c*/d*/e\n/*/f".toList = "ad*/e\n/*/f".toList := by
  cbv

end FlatStyle.Stylesheet
