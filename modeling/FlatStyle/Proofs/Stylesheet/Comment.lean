import FlatStyle.Proofs.Text.Split
import FlatStyle.Stylesheet.Comment
import Mathlib.Data.List.Basic

namespace FlatStyle.Stylesheet

open Text

def Uncommented (s : List Char) : Prop := ¬ ['/', '*'] <:+: s

theorem uncommented_nil : Uncommented [] := fun h => List.cons_ne_nil _ _ (List.infix_nil.1 h)

theorem uncommented_of_not_mem {s : List Char} (h : '/' ∉ s) : Uncommented s :=
  fun hmark => h (hmark.subset List.mem_cons_self)

section Line

variable {line before inner skipped after : List Char}

theorem stripLine_unopened (hopen : splitFirst? ['/', '*'] line = none) :
    stripLine line = line := by
  rw [stripLine]
  split
  · rfl
  · rename_i hopen'
    rw [hopen] at hopen'
    cases hopen'

theorem stripLine_unclosed (hopen : splitFirst? ['/', '*'] line = some (before, inner))
    (hclose : splitFirst? ['*', '/'] inner = none) : stripLine line = line := by
  rw [stripLine]
  split
  · rfl
  · rename_i hopen'
    rw [hopen] at hopen'
    cases hopen'
    split
    · rfl
    · rename_i hclose'
      rw [hclose] at hclose'
      cases hclose'

theorem stripLine_closed (hopen : splitFirst? ['/', '*'] line = some (before, inner))
    (hclose : splitFirst? ['*', '/'] inner = some (skipped, after)) :
    stripLine line = before ++ stripLine after := by
  rw [stripLine]
  split
  · rename_i hopen'
    rw [hopen] at hopen'
    cases hopen'
  · rename_i hopen'
    rw [hopen] at hopen'
    cases hopen'
    split
    · rename_i hclose'
      rw [hclose] at hclose'
      cases hclose'
    · rename_i hclose'
      rw [hclose] at hclose'
      cases hclose'
      rfl

end Line

theorem stripLine_eq_self {line : List Char} (h : Uncommented line) : stripLine line = line :=
  stripLine_unopened (splitFirst?_eq_none_iff.2 h)

theorem stripComments_eq_self {s : List Char} (h : Uncommented s) : stripComments s = s := by
  have hlines : ∀ line ∈ lines s, stripLine line = line := by
    intro line hline
    have hwithin : line <:+: s := by
      rw [← flatten_lines s]
      exact List.infix_of_mem_flatten hline
    exact stripLine_eq_self fun hmark => h (hmark.trans hwithin)
  rw [stripComments, List.flatMap_congr hlines, List.flatMap_id', flatten_lines]

theorem Uncommented.append_cons {s t : List Char} (hs : Uncommented s) (ht : Uncommented t)
    {c : Char} (hslash : c ≠ '/') (hstar : c ≠ '*') : Uncommented (s ++ c :: t) := by
  induction s with
  | nil =>
      rw [Uncommented, List.nil_append, List.infix_cons_iff, not_or]
      exact ⟨fun h => hslash (List.cons_prefix_cons.1 h).1.symm, ht⟩
  | cons d s ih =>
      rw [Uncommented, List.infix_cons_iff, not_or] at hs
      rw [Uncommented, List.cons_append, List.infix_cons_iff, not_or]
      refine ⟨fun h => ?_, ih hs.2⟩
      -- A mark that begins in `s` ends in `s`, since `c` cannot end it.
      obtain ⟨hd, hnext⟩ := List.cons_prefix_cons.1 h
      cases s with
      | nil => exact hstar (List.cons_prefix_cons.1 hnext).1.symm
      | cons e s =>
          refine hs.1 (List.cons_prefix_cons.2 ⟨hd, ?_⟩)
          exact List.cons_prefix_cons.2 ⟨(List.cons_prefix_cons.1 hnext).1, List.nil_prefix⟩

end FlatStyle.Stylesheet
