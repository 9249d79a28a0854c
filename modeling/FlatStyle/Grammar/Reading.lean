import FlatStyle.Grammar.Token

/-!
What a value grammar does to a value: it accepts or refuses, writes properties in order, and leaves
the rest of the text. A grammar never sees the properties written before it.
-/

namespace FlatStyle

namespace Grammar

structure Reading where
  accepted : Bool
  writes : List (String × String)
  rest : List Char

def Reading.refused (s : List Char) : Reading := ⟨false, [], s⟩

def Reading.after (r : Reading) (earlier : List (String × String)) : Reading :=
  { r with writes := earlier ++ r.writes }

end Grammar

/-- Reads a value off the front of a text. -/
abbrev Grammar := List Char → Grammar.Reading

namespace Grammar

def single (key : String) (token : TokenReader) : Grammar := fun s =>
  match token s with
  | some (value, rest) => ⟨true, [(key, value)], rest⟩
  | none => .refused s

def orElse (first second : Grammar) : Grammar := fun s =>
  let r := first s
  if r.accepted then r else (second r.rest).after r.writes

/-- Repeats a grammar until it refuses or reads nothing more. -/
def repeated (round : Grammar) (s : List Char) : Reading :=
  let r := round s
  if _h : r.accepted ∧ r.rest.length < s.length then
    let more := repeated round r.rest
    ⟨true, r.writes ++ more.writes, more.rest⟩
  else r
termination_by s.length
decreasing_by exact _h.2

def firstAccepting : List Grammar → List Char → Option (Reading × List Grammar)
  | [], _ => none
  | g :: gs, s =>
      let r := g s
      if r.accepted then some (r, gs)
      else (firstAccepting gs s).map fun (r, others) => (r, g :: others)

theorem length_lt_of_firstAccepting {gs others : List Grammar} {s : List Char} {r : Reading}
    (h : firstAccepting gs s = some (r, others)) : others.length < gs.length := by
  induction gs generalizing others with
  | nil => cases h
  | cons g gs ih =>
      simp only [firstAccepting] at h
      split at h
      · cases h
        exact Nat.lt_succ_self _
      · obtain ⟨⟨r', others'⟩, h', heq⟩ := Option.map_eq_some_iff.1 h
        cases heq
        exact Nat.succ_lt_succ (ih h')

/-- Takes each of the grammars at most once, in whatever order the text has them. -/
def eachOnce (gs : List Grammar) (s : List Char) : Reading :=
  match _h : firstAccepting gs s with
  | none => .refused s
  | some (r, others) =>
      let more := eachOnce others r.rest
      ⟨true, r.writes ++ more.writes, more.rest⟩
termination_by gs.length
decreasing_by exact length_lt_of_firstAccepting _h

def upTo : Nat → TokenReader → List Char → List String × List Char
  | 0, _, s => ([], s)
  | limit + 1, token, s =>
      match token s with
      | none => ([], s)
      | some (value, rest) =>
          let (values, rest) := upTo limit token rest
          (value :: values, rest)

section UpTo

variable {token : TokenReader} {limit : Nat} {value : String} {s t : List Char}

theorem upTo_of_none (h : token s = none) : upTo limit token s = ([], s) := by
  cases limit with
  | zero => rfl
  | succ limit => rw [upTo, h]

theorem upTo_of_some (h : token s = some (value, t)) : upTo (limit + 1) token s =
    (value :: (upTo limit token t).1, (upTo limit token t).2) := by
  rw [upTo, h]

end UpTo

end Grammar

end FlatStyle
