import Std.Data.HashMap
import FlatStyle.Markup.ReferenceTable
import FlatStyle.Text.Character

namespace FlatStyle.Markup

open Text

def digitValue (c : Char) : Nat :=
  if c.isDigit then c.toNat - '0'.toNat else c.toLower.toNat - 'a'.toNat + 10

def numberOf (base : Nat) (digits : List Char) : Nat :=
  digits.foldl (fun n c => n * base + digitValue c) 0

/-- The characters that the references `&#128;` to `&#159;` stand for. -/
def windowsCharacters : List (Nat × Nat) := [
  (0x80, 0x20AC), (0x82, 0x201A), (0x83, 0x0192), (0x84, 0x201E), (0x85, 0x2026),
  (0x86, 0x2020), (0x87, 0x2021), (0x88, 0x02C6), (0x89, 0x2030), (0x8A, 0x0160),
  (0x8B, 0x2039), (0x8C, 0x0152), (0x8E, 0x017D), (0x91, 0x2018), (0x92, 0x2019),
  (0x93, 0x201C), (0x94, 0x201D), (0x95, 0x2022), (0x96, 0x2013), (0x97, 0x2014),
  (0x98, 0x02DC), (0x99, 0x2122), (0x9A, 0x0161), (0x9B, 0x203A), (0x9C, 0x0153),
  (0x9E, 0x017E), (0x9F, 0x0178)]

def replacement : Char := '\ufffd'

def characterOf (n : Nat) : Char :=
  match windowsCharacters.lookup n with
  | some m => Char.ofNat m
  | none => if n = 0 then replacement else if n.isValidChar then Char.ofNat n else replacement

structure Reference where
  value : List Char
  closed : Bool
  rest : List Char

def numericReference? (base : Nat) (isDigit : Char → Bool) (s : List Char) : Option Reference :=
  let digits := s.takeWhile isDigit
  if digits.isEmpty then none
  else
    let value := [characterOf (numberOf base digits)]
    match s.dropWhile isDigit with
    | ';' :: t => some ⟨value, true, t⟩
    | t => some ⟨value, false, t⟩

def referenceEntry? (entry : String) : Option (String × List Char) :=
  match entry.splitOn "=" with
  | [name, value] =>
      some (name, (value.splitOn "+").map fun digits => Char.ofNat (numberOf 16 digits.toList))
  | _ => none

def references : Std.HashMap String (List Char) :=
  .ofList ((referenceLines.flatMap (·.splitOn " ")).filterMap referenceEntry?)

def longestName : Nat := 32

def namedReference? (s : List Char) : Option Reference :=
  let word := (s.takeWhile Char.isAlphanum).take longestName
  let closing := if s[word.length]? = some ';' then [word.length + 1] else []
  let lengths := closing ++ (List.range word.length).reverse.map (· + 1)
  lengths.findSome? fun n =>
    (references[String.ofList (s.take n)]?).map fun value => ⟨value, n > word.length, s.drop n⟩

/-- The reference that a text begins with, behind its `&`. Inside an attribute a name without a
semicolon is none where it could go on or an `=` follows. -/
def reference? (inAttribute : Bool) (s : List Char) : Option Reference :=
  match s with
  | '#' :: 'x' :: t => numericReference? 16 isHexDigit t
  | '#' :: 'X' :: t => numericReference? 16 isHexDigit t
  | '#' :: t => numericReference? 10 Char.isDigit t
  | _ =>
      (namedReference? s).filter fun r =>
        !(inAttribute && !r.closed && r.rest.head?.any fun c => c == '=' || c.isAlphanum)

def decodeAttribute (s : List Char) : List Char := go (s.length + 1) s
where
  go : Nat → List Char → List Char
    | 0, _ => []
    | _ + 1, [] => []
    | n + 1, '&' :: t =>
        match reference? true t with
        | some r => r.value ++ go n r.rest
        | none => '&' :: go n t
    | n + 1, c :: t => (if c.toNat = 0 then replacement else c) :: go n t

end FlatStyle.Markup
