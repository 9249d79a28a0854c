import FlatStyle.Text.Character

/-!
The items of a style text. An item is an at-rule, which a semicolon ends, or a rule with its block;
the end of the text closes whatever is open.
-/

namespace FlatStyle.Stylesheet

open Text

inductive Item where
  /-- An at-rule with its `@` and without the semicolon; what stood before the `@` is dropped. -/
  | atRule (text : List Char)
  | rule (selector block : List Char)

/-- A selector ends at a brace and an at-rule begins at an `@`. -/
def isItemMark (c : Char) : Bool := c == '{' || c == '@'

def nextItem? (s : List Char) : Option (Item × List Char) :=
  match s.dropWhile (!isItemMark ·) with
  | [] => none
  | '@' :: t =>
      some (.atRule ('@' :: t.takeWhile (· != ';')), (t.dropWhile (· != ';')).drop 1)
  | _ :: t =>
      some (.rule (s.takeWhile (!isItemMark ·)) (t.takeWhile (· != '}')),
        (t.dropWhile (· != '}')).drop 1)

theorem length_lt_of_nextItem? {s rest : List Char} {item : Item}
    (h : nextItem? s = some (item, rest)) : rest.length < s.length := by
  have hs := length_dropWhile_le (!isItemMark ·) s
  unfold nextItem? at h
  split at h
  · cases h
  · rename_i t heq
    cases h
    have := length_dropWhile_le (· != ';') t
    simp only [heq, List.length_cons, List.length_drop] at *
    omega
  · rename_i t _ heq
    cases h
    have := length_dropWhile_le (· != '}') t
    simp only [heq, List.length_cons, List.length_drop] at *
    omega

def items (s : List Char) : List Item :=
  match _h : nextItem? s with
  | none => []
  | some (item, rest) => item :: items rest
termination_by s.length
decreasing_by exact length_lt_of_nextItem? _h

end FlatStyle.Stylesheet
