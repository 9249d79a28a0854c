import FlatStyle.Text.Character

namespace FlatStyle.Text

/-- The pieces between the separators, one more than there are separators. -/
def fields (isSeparator : Char → Bool) : List Char → List (List Char)
  | [] => [[]]
  | c :: s =>
      if isSeparator c then [] :: fields isSeparator s
      else (fields isSeparator s).modifyHead (c :: ·)

@[simp] theorem fields_nil (p : Char → Bool) : fields p [] = [[]] := rfl

theorem fields_cons_separator {p : Char → Bool} {c : Char} (h : p c = true) (s : List Char) :
    fields p (c :: s) = [] :: fields p s := by
  simp [fields, h]

theorem fields_cons_other {p : Char → Bool} {c : Char} (h : p c = false) (s : List Char) :
    fields p (c :: s) = (fields p s).modifyHead (c :: ·) := by
  simp [fields, h]

/-- The lines of a text, each with its line feed. -/
def lines : List Char → List (List Char)
  | [] => []
  | c :: s =>
      if c = '\n' then [c] :: lines s
      else
        match lines s with
        | [] => [[c]]
        | l :: ls => (c :: l) :: ls

theorem flatten_lines (s : List Char) : (lines s).flatten = s := by
  fun_induction lines s with
  | case1 => rfl
  | case2 s ih => simp [ih]
  | case3 c s _ hs ih => simp_all
  | case4 c s _ l ls hs ih => simp_all

def trimStart (s : List Char) : List Char := s.dropWhile isBlank

def trimEnd (s : List Char) : List Char := (s.reverse.dropWhile isBlank).reverse

def trim (s : List Char) : List Char := trimEnd (trimStart s)

/-- The last maximal run of characters that are not white space. -/
def lastWord? (s : List Char) : Option (List Char) :=
  let word := ((s.reverse.dropWhile isBlank).takeWhile (!isBlank ·)).reverse
  if word.isEmpty then none else some word

def asciiWords (s : List Char) : List (List Char) :=
  (fields isAsciiBlank s).filter (!·.isEmpty)

def dropPiece? : List Char → List Char → Option (List Char)
  | [], s => some s
  | _ :: _, [] => none
  | c :: piece, d :: s => if c = d then dropPiece? piece s else none

/-- What stands before and after the first occurrence of `piece`. -/
def splitFirst? (piece : List Char) : List Char → Option (List Char × List Char)
  | [] => (dropPiece? piece []).map fun after => ([], after)
  | c :: s =>
      match dropPiece? piece (c :: s) with
      | some after => some ([], after)
      | none => (splitFirst? piece s).map fun (before, after) => (c :: before, after)

theorem dropPiece?_eq_some_iff {piece s after : List Char} :
    dropPiece? piece s = some after ↔ s = piece ++ after := by
  fun_induction dropPiece? piece s with
  | case1 => simp [eq_comm]
  | case2 => simp
  | case3 piece c s ih => simp [ih]
  | case4 c piece d s hne =>
      simp only [reduceCtorEq, List.cons_append, List.cons.injEq, false_iff]
      exact fun h => hne h.1.symm

theorem eq_append_of_splitFirst? {piece s before after : List Char}
    (h : splitFirst? piece s = some (before, after)) : s = before ++ piece ++ after := by
  induction s generalizing before with
  | nil =>
      obtain ⟨after', h', heq⟩ := Option.map_eq_some_iff.1 h
      cases heq
      exact dropPiece?_eq_some_iff.1 h'
  | cons c s ih =>
      unfold splitFirst? at h
      split at h
      · rename_i h'
        cases h
        exact dropPiece?_eq_some_iff.1 h'
      · obtain ⟨⟨before', after'⟩, h', heq⟩ := Option.map_eq_some_iff.1 h
        cases heq
        simp [ih h']

theorem length_of_splitFirst? {piece s before after : List Char}
    (h : splitFirst? piece s = some (before, after)) :
    after.length + piece.length ≤ s.length := by
  rw [eq_append_of_splitFirst? h]
  simp only [List.length_append]
  omega

end FlatStyle.Text
