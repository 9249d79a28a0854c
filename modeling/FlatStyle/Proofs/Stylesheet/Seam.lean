import FlatStyle.Proofs.Stylesheet.Scanning
import FlatStyle.Session

/-!
Seams. A comment that is taken out leaves a seam, and a slash copied before a seam opens a comment
with a star copied after it. That is the only way in which a whole comment can stand in a stripped
line, so stripping a text once more changes it exactly if one of its lines has such a seam.
-/

namespace FlatStyle

open Text

namespace Stylesheet

/-- A line as the scan meets it: characters that it copies and comments that it passes over. -/
inductive Part where
  | copied (c : Char)
  | comment (inner : List Char)

namespace Part

def chars : Part → List Char
  | .copied c => [c]
  | .comment inner => '/' :: '*' :: (inner ++ ['*', '/'])

def copied? : Part → Option Char
  | .copied c => some c
  | .comment _ => none

end Part

def parts : List Char → List Part
  | [] => []
  | '/' :: '*' :: s =>
      match _close : splitFirst? ['*', '/'] s with
      | some (inner, after) => .comment inner :: parts after
      | none => .copied '/' :: parts ('*' :: s)
  | c :: s => .copied c :: parts s
termination_by line => line.length
decreasing_by
  · have := length_of_splitFirst? _close
    simp only [List.length_cons] at *
    omega
  · exact Nat.lt_succ_self _
  · exact Nat.lt_succ_self _

def copiedChars (ps : List Part) : List Char := ps.filterMap Part.copied?

/-- A slash and a star are copied with nothing but comments between them, and `*/` after them. -/
def Seamed (ps : List Part) : Prop :=
  ∃ before comments back, ps = before ++ .copied '/' :: (comments ++ .copied '*' :: back) ∧
    comments ≠ [] ∧ copiedChars comments = [] ∧
    ∃ inner after, copiedChars back = inner ++ '*' :: '/' :: after

section Parts

variable {c d : Char} {s t after : List Char} {ps qs : List Part} {p : Part}

theorem parts_comment (h : afterComment? s = some after) :
    ∃ inner, s = '/' :: '*' :: (inner ++ '*' :: '/' :: after) ∧
      parts s = .comment inner :: parts after := by
  obtain ⟨t, rfl, hclose⟩ := afterComment?_eq_some_iff.1 h
  rw [afterClose?_eq_map] at hclose
  obtain ⟨⟨inner, _⟩, hfirst, rfl⟩ := Option.map_eq_some_iff.1 hclose
  refine ⟨inner, by simp [eq_append_of_splitFirst? hfirst], ?_⟩
  rw [parts]
  split
  · rename_i hfirst'
    rw [hfirst] at hfirst'
    cases hfirst'
    rfl
  · rename_i hfirst'
    rw [hfirst] at hfirst'
    cases hfirst'

theorem parts_other (h : afterComment? (c :: s) = none) :
    parts (c :: s) = .copied c :: parts s := by
  rw [parts.eq_def (c :: s)]
  split
  · contradiction
  · rename_i t heq
    obtain ⟨rfl, rfl⟩ := List.cons.inj heq
    have hclose : (splitFirst? ['*', '/'] t).map Prod.snd = none := by
      rw [← afterClose?_eq_map]
      exact h
    split
    · rename_i hfirst
      rw [hfirst] at hclose
      cases hclose
    · rfl
  · rename_i heq
    obtain ⟨rfl, rfl⟩ := List.cons.inj heq
    rfl

@[simp] theorem copiedChars_append :
    copiedChars (ps ++ qs) = copiedChars ps ++ copiedChars qs := List.filterMap_append

@[simp] theorem copiedChars_copied : copiedChars (.copied c :: ps) = c :: copiedChars ps := rfl

@[simp] theorem copiedChars_comment : copiedChars (.comment s :: ps) = copiedChars ps := rfl

theorem copiedChars_parts (line : List Char) : copiedChars (parts line) = scanLine line := by
  fun_induction scanLine line with
  | case1 => simp [parts, copiedChars]
  | case2 c s after hafter ih =>
      obtain ⟨inner, -, hparts⟩ := parts_comment hafter
      rw [hparts, copiedChars_comment, ih]
  | case3 c s hnone ih => rw [parts_other hnone, copiedChars_copied, ih]

theorem flatMap_parts (line : List Char) : (parts line).flatMap Part.chars = line := by
  fun_induction scanLine line with
  | case1 => simp [parts]
  | case2 c s after hafter ih =>
      obtain ⟨inner, hs, hparts⟩ := parts_comment hafter
      rw [hparts, List.flatMap_cons, ih, hs]
      simp [Part.chars]
  | case3 c s hnone ih => rw [parts_other hnone, List.flatMap_cons, ih]; rfl

theorem Seamed.cons (h : Seamed ps) (p : Part) : Seamed (p :: ps) := by
  obtain ⟨before, comments, back, rfl, h⟩ := h
  exact ⟨p :: before, comments, back, rfl, h⟩

theorem parts_of_scanLine (h : scanLine s = d :: t) :
    ∃ comments rest, parts s = comments ++ .copied d :: parts rest ∧ copiedChars comments = [] ∧
      t = scanLine rest ∧ (comments = [] → s = d :: rest) := by
  fun_induction scanLine s with
  | case1 => cases h
  | case2 c s after hafter ih =>
      obtain ⟨comments, rest, hparts, hcomments, ht, -⟩ := ih h
      obtain ⟨inner, -, hcomment⟩ := parts_comment hafter
      rw [hcomment, hparts]
      exact ⟨.comment inner :: comments, rest, rfl, hcomments, ht,
        fun hnil => absurd hnil (List.cons_ne_nil _ _)⟩
  | case3 c s hnone =>
      obtain ⟨rfl, rfl⟩ := List.cons.inj h
      exact ⟨[], s, parts_other hnone, rfl, rfl, fun _ => rfl⟩

theorem commented_scanLine_iff (line : List Char) :
    Commented (scanLine line) ↔ Seamed (parts line) := by
  constructor
  · intro h
    fun_induction scanLine line with
    | case1 =>
        obtain ⟨before, inner, after, h⟩ := h
        simp at h
    | case2 c s after hafter ih =>
        obtain ⟨inner, -, hparts⟩ := parts_comment hafter
        rw [hparts]
        exact (ih h).cons _
    | case3 c s hnone ih =>
        rw [parts_other hnone]
        obtain ⟨before, inner, after, hcopied⟩ := h
        cases before with
        | cons _ before => exact (ih ⟨before, inner, after, (List.cons.inj hcopied).2⟩).cons _
        | nil =>
            obtain ⟨rfl, hstar⟩ := List.cons.inj hcopied
            obtain ⟨comments, rest, hparts, hcomments, hback, hnext⟩ := parts_of_scanLine hstar
            rw [hparts]
            refine ⟨[], comments, parts rest, rfl, ?_, hcomments, inner, after, ?_⟩
            · -- Without a seam the comment stands in the line, and the scan passes over it.
              intro hnil
              rw [hnext hnil] at hnone
              have hopen : afterClose? rest = none := hnone
              rw [scanLine_unclosed hopen] at hback
              rw [← hback] at hopen
              exact afterClose?_ne_none inner after hopen
            · rw [copiedChars_parts, ← hback]
  · rintro ⟨before, comments, back, hparts, -, hcomments, inner, after, hback⟩
    refine ⟨copiedChars before, inner, after, ?_⟩
    rw [← copiedChars_parts, hparts]
    simp [hcomments, hback]

end Parts

section Lines

theorem not_commented_nil : ¬ Commented [] := by
  rintro ⟨before, inner, after, h⟩
  simp at h

theorem lines_stripComments (s : List Char) :
    lines (stripComments s) = ((lines s).map stripLine).filter (!·.isEmpty) := by
  induction s using line_induction with
  | last s h =>
      rw [stripComments_last h]
      have hscan : '\n' ∉ scanLine s := fun hmem => h ((scanLine_sublist s).subset hmem)
      by_cases hs : s = []
      · subst hs
        simp [lines]
      · rw [lines_last h hs, List.map_singleton, stripLine_eq_scanLine]
        by_cases hempty : scanLine s = []
        · simp [hempty, lines]
        · simp [lines_last hscan hempty, hempty]
  | line front rest h ih =>
      have hscan : '\n' ∉ scanLine front := fun hmem => h ((scanLine_sublist front).subset hmem)
      rw [stripComments_line h, lines_line hscan, lines_line h, ih, List.map_cons,
        stripLine_eq_scanLine, scanLine_concat, List.filter_cons_of_pos]
      simp

theorem stripComments_stripComments_iff (s : List Char) :
    stripComments (stripComments s) = stripComments s ↔
      ∀ line ∈ lines s, ¬ Seamed (parts line) := by
  rw [stripComments_eq_self_iff, lines_stripComments]
  simp only [List.mem_filter, List.mem_map, ← commented_scanLine_iff, ← stripLine_eq_scanLine]
  constructor
  · intro h line hline hcommented
    apply h (stripLine line) ⟨⟨line, hline, rfl⟩, ?_⟩ hcommented
    by_contra hempty
    have hnil : stripLine line = [] := by simpa using hempty
    rw [hnil] at hcommented
    exact not_commented_nil hcommented
  · rintro h _ ⟨⟨line, hline, rfl⟩, -⟩
    exact h line hline

end Lines

end Stylesheet

namespace Session

open Stylesheet

/-- A line of a stripped text is what the scan copies of a line of the text, and it holds a whole
comment exactly if that line has a seam which opens one. Without such a seam in the text, and only
then, stripping it twice is stripping it once; and then the stripped text reads as the text does. -/
theorem readText_stripped (css : String) :
    lines (stripComments css.toList) = ((lines css.toList).map stripLine).filter (!·.isEmpty) ∧
      (∀ line, (parts line).flatMap Part.chars = line ∧
        copiedChars (parts line) = stripLine line ∧
        (Commented (stripLine line) ↔ Seamed (parts line))) ∧
      (stripComments (stripComments css.toList) = stripComments css.toList ↔
        ∀ line ∈ lines css.toList, ¬ Seamed (parts line)) ∧
      ((∀ line ∈ lines css.toList, ¬ Seamed (parts line)) →
        ∀ s : Session, s.readText (String.ofList (stripComments css.toList)) = s.readText css) := by
  refine ⟨lines_stripComments _, ?_, stripComments_stripComments_iff _, ?_⟩
  · intro line
    rw [stripLine_eq_scanLine]
    exact ⟨flatMap_parts line, copiedChars_parts line, commented_scanLine_iff line⟩
  · intro hseams s
    have hstable := (stripComments_stripComments_iff _).2 hseams
    rw [readText, String.toList_ofList, Sheet.ofText, hstable]
    rfl

def harmlessSeams : String := "//*a*/ x/*/b*/*/\n//*c*/*d"

theorem readText_harmlessSeams :
    (∀ line ∈ lines harmlessSeams.toList, ¬ Seamed (parts line)) ∧
      ∀ s : Session, s.readText (String.ofList (stripComments harmlessSeams.toList)) =
        s.readText harmlessSeams := by
  have hstripped := readText_stripped harmlessSeams
  have hseams := hstripped.2.2.1.1 (by decide +kernel)
  exact ⟨hseams, hstripped.2.2.2 hseams⟩

def slashStar : String := "//* x */* y */p\x7bcolor:red\x7d"

/-- What is left is a comment, which becomes a part of the selector until it is stripped again. -/
theorem readText_slashStar :
    (∃ line ∈ lines (stripComments slashStar.toList), Commented line) ∧
      stripComments (stripComments slashStar.toList) ≠ stripComments slashStar.toList ∧
      ((start false).readText (String.ofList (stripComments slashStar.toList))).index.rules ≠
        ((start false).readText slashStar).index.rules := by
  have hlines : lines (stripComments slashStar.toList) =
      ["/* y */p\x7bcolor:red\x7d".toList] := by decide +kernel
  refine ⟨?_, by decide +kernel, by decide +kernel⟩
  rw [hlines]
  exact ⟨_, List.mem_singleton_self _, [], " y ".toList, "p\x7bcolor:red\x7d".toList, rfl⟩

end Session

end FlatStyle
