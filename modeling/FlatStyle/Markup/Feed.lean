import FlatStyle.Text.Character

/-!
How a text comes in: in blocks of bytes, each of which may open with a byte order mark that does not
belong to the text.
-/

namespace FlatStyle.Markup

open Text

def blockSize : Nat := 4096

def splitBytes : Nat → List Char → List Char × List Char
  | _, [] => ([], [])
  | n, c :: s =>
      if c.utf8Size ≤ n then
        let (front, rest) := splitBytes (n - c.utf8Size) s
        (c :: front, rest)
      else ([], c :: s)

/-- The pieces in which a text comes in, with `room` bytes left in the first block. A character that
the end of a block cuts in two is put together in a buffer of four bytes, and makes one piece with
what else fits into the buffer. Every piece but the first takes at least one character. -/
def piecesFrom : Nat → Nat → List Char → List (List Char)
  | 0, _, _ => []
  | n + 1, room, s =>
      match splitBytes room s with
      | (front, []) => [front]
      | (front, rest) =>
          let cut := room - utf8Length front
          if cut = 0 then front :: piecesFrom n blockSize rest
          else
            let (whole, rest) := splitBytes 4 rest
            front :: whole :: piecesFrom n (blockSize - (utf8Length whole - cut)) rest

def pieces (s : List Char) : List (List Char) := piecesFrom (s.length + 1) blockSize s

def dropMark : List Char → List Char
  | '\ufeff' :: t => t
  | t => t

def lineFeeds : List Char → List Char
  | [] => []
  | '\r' :: '\n' :: t => '\n' :: lineFeeds t
  | '\r' :: t => '\n' :: lineFeeds t
  | c :: t => c :: lineFeeds t

structure Feed where
  text : List Char
  /-- How much text there is from the beginning of each piece on. -/
  starts : List Nat

namespace Feed

def startsOf : List (List Char) → List Nat
  | [] => []
  | p :: ps => (lineFeeds (p :: ps).flatten).length :: startsOf ps

def ofText (s : List Char) : Feed :=
  let texts := (pieces s).map dropMark
  ⟨lineFeeds texts.flatten, startsOf texts⟩

/-- What follows where reading starts afresh: a byte order mark does not count here either, unless a
piece begins here, which has lost its mark already. -/
def resume (f : Feed) (rest : List Char) : List Char :=
  if f.starts.contains rest.length then rest else dropMark rest

end Feed

end FlatStyle.Markup
