import FlatStyle.Text.Character

namespace FlatStyle.Grammar

open Text

abbrev TokenReader := List Char → Option (String × List Char)

def TokenReader.orElse (first second : TokenReader) : TokenReader := fun s =>
  (first s).or (second s)

def skipBlanks (s : List Char) : List Char := s.dropWhile isAsciiBlank

def startsWithWord (word s : List Char) : Bool := (dropWord? word s).isSome

/-- A word ends where no ASCII letter or digit follows. -/
def endsWord (s : List Char) : Bool := !s.head?.any Char.isAlphanum

/-- The first of `words` that stands at the front of the text and ends there. -/
def keywordHere? (words : List String) : TokenReader := fun s =>
  words.findSome? fun word =>
    (dropWord? word.toList s).bind fun rest => if endsWord rest then some (word, rest) else none

def keyword? (words : List String) : TokenReader := fun s => keywordHere? words (skipBlanks s)

theorem length_skipBlanks_le (s : List Char) : (skipBlanks s).length ≤ s.length :=
  length_dropWhile_le _ s

theorem of_keywordHere? {words : List String} {s rest : List Char} {word : String}
    (h : keywordHere? words s = some (word, rest)) :
    word ∈ words ∧ dropWord? word.toList s = some rest ∧ endsWord rest = true := by
  obtain ⟨w, hw, h⟩ := List.exists_of_findSome?_eq_some h
  obtain ⟨rest', hdrop, h⟩ := Option.bind_eq_some_iff.1 h
  split at h
  · cases h
    exact ⟨hw, hdrop, ‹_›⟩
  · cases h

theorem of_keyword? {words : List String} {s rest : List Char} {word : String}
    (h : keyword? words s = some (word, rest)) :
    word ∈ words ∧ dropWord? word.toList (skipBlanks s) = some rest ∧ endsWord rest = true :=
  of_keywordHere? h

theorem length_of_keyword? {words : List String} {s rest : List Char} {word : String}
    (h : keyword? words s = some (word, rest)) :
    rest.length + word.toList.length ≤ s.length := by
  have := length_of_dropWord? (of_keyword? h).2.1
  have := length_skipBlanks_le s
  omega

def isNumberChar (c : Char) : Bool := c.isDigit || c == '.'

/-- An optional minus, then digits and points with at least one digit. -/
def number? : TokenReader := fun s =>
  let (sign, body) := match s with
    | '-' :: t => (['-'], t)
    | _ => ([], s)
  let digits := body.takeWhile isNumberChar
  if digits.any Char.isDigit then
    some (String.ofList (sign ++ digits), body.dropWhile isNumberChar)
  else none

/-- The text after the first `close`, or the empty text. -/
def skipPast (close : Char) (s : List Char) : List Char := (s.dropWhile (· != close)).drop 1

theorem length_skipPast_le (close : Char) (s : List Char) :
    (skipPast close s).length ≤ s.length := by
  have := length_dropWhile_le (· != close) s
  simp only [skipPast, List.length_drop]
  omega

end FlatStyle.Grammar
