import FlatStyle.Grammar.Color
import FlatStyle.Grammar.Size

/-!
A cursor over a value, and the steps that move it. The text behind the cursor and the text ahead of
it always make up the whole value; the position counts bytes of UTF-8.
-/

namespace FlatStyle

open Text Grammar

structure Cursor where
  behind : List Char
  ahead : List Char

namespace Cursor

def start (text : String) : Cursor := ⟨[], text.toList⟩

def position (c : Cursor) : Nat := utf8Length c.behind

def atEnd (c : Cursor) : Bool := c.ahead.isEmpty

/-- Passes over all that is ahead but `rest`. -/
def moveTo (c : Cursor) (rest : List Char) : Cursor :=
  ⟨c.behind ++ c.ahead.take (c.ahead.length - rest.length), rest⟩

@[simp] theorem moveTo_ahead (c : Cursor) : c.moveTo c.ahead = c := by
  simp [moveTo]

theorem moveTo_append (behind s rest : List Char) :
    (⟨behind, s ++ rest⟩ : Cursor).moveTo rest = ⟨behind ++ s, rest⟩ := by
  simp [moveTo]

inductive Step where
  | peek
  | advance
  | eat (expected : Char)
  | skipBlanks
  | scanUntil (stops : List Char)
  | hexDigits
  | startsWith (word : String)
  | keyword (words : List String)
  | keywordHere (words : List String)
  | number
  | rest
  | color
  | size (nonNegative : Bool)

inductive Answer where
  | none
  | flag (value : Bool)
  | char (value : Option Char)
  | text (value : Option String)

def run (p : Char → Bool) (c : Cursor) : Answer × Cursor :=
  (.text (some (String.ofList (c.ahead.takeWhile p))), c.moveTo (c.ahead.dropWhile p))

def token (read : TokenReader) (c : Cursor) : Answer × Cursor :=
  match read c.ahead with
  | some (value, rest) => (.text (some value), c.moveTo rest)
  | Option.none => (.text Option.none, c)

def step (c : Cursor) : Step → Answer × Cursor
  | .peek => (.char c.ahead.head?, c)
  | .advance => (.char c.ahead.head?, c.moveTo c.ahead.tail)
  | .eat expected =>
      if c.ahead.head? = some expected then (.flag true, c.moveTo c.ahead.tail)
      else (.flag false, c)
  | .skipBlanks => (.none, c.moveTo (Grammar.skipBlanks c.ahead))
  | .scanUntil stops => c.run (!stops.contains ·)
  | .hexDigits => c.run isHexDigit
  | .startsWith word => (.flag (startsWithWord word.toList c.ahead), c)
  | .keyword words => c.token (keyword? words)
  | .keywordHere words => c.token (keywordHere? words)
  | .number => c.token number?
  | .rest => (.text (some (String.ofList c.ahead)), c)
  | .color => c.token color?
  | .size nonNegative => c.token (size? nonNegative)

inductive Command where
  | step (step : Step)
  | mark
  | reset

structure Session where
  cursor : Cursor
  marked : Cursor

namespace Session

def start (text : String) : Session := ⟨.start text, .start text⟩

def obey (s : Session) : Command → Answer × Session
  | .step step =>
      let (answer, cursor) := s.cursor.step step
      (answer, { s with cursor })
  | .mark => (.none, { s with marked := s.cursor })
  | .reset => (.none, { s with cursor := s.marked })

def run : Session → List Command → List (Answer × Cursor)
  | _, [] => []
  | s, command :: commands =>
      let (answer, s) := s.obey command
      (answer, s.cursor) :: s.run commands

end Session

end Cursor

end FlatStyle
