import FlatStyle.Text.Split

namespace FlatStyle.Stylesheet

open Text

def stripLine (line : List Char) : List Char :=
  match _open : splitFirst? ['/', '*'] line with
  | none => line
  | some (before, inner) =>
      match _close : splitFirst? ['*', '/'] inner with
      | none => line
      | some (_, after) => before ++ stripLine after
termination_by line.length
decreasing_by
  have := length_of_splitFirst? _open
  have := length_of_splitFirst? _close
  simp only [List.length_cons, List.length_nil] at *
  omega

def stripComments (s : List Char) : List Char := (lines s).flatMap stripLine

end FlatStyle.Stylesheet
