import FlatStyle.Cursor
import FlatStyle.Proofs.Grammar.Language
import FlatStyle.Proofs.Grammar.Spacing
import FlatStyle.Proofs.Text.Bytes

/-!
The steps of a cursor at an offset into the bytes of its value. They cut slices out of the value and
fail if a slice does, look for words byte by byte, and add up the bytes they pass over. At an offset
with an end of the value behind it no slice fails, and what is found there is what the readers of
tokens find.
-/

namespace FlatStyle

open Text Grammar

namespace Cursor

def aheadAt? (s : List Char) (n : Nat) : Option (List Char) := slice? s n (utf8Length s)

/-- Goes back to an offset at which no character is cut in two. -/
def resetAt? (s : List Char) (n : Nat) : Option Nat :=
  (cutAt? n s).map fun _ => min n (utf8Length s)

def advanceAt? (s : List Char) (n : Nat) : Option (Option Char × Nat) := do
  let ahead ← aheadAt? s n
  some (ahead.head?, n + ahead.head?.elim 0 Char.utf8Size)

def eatAt? (s : List Char) (expected : Char) (n : Nat) : Option (Bool × Nat) := do
  let ahead ← aheadAt? s n
  if ahead.head? = some expected then some (true, n + expected.utf8Size) else some (false, n)

def runAt? (s : List Char) (p : Char → Bool) (n : Nat) : Option (List Char × Nat) := do
  let ahead ← aheadAt? s n
  let length := (offsetWhere? (!p ·) ahead).getD (utf8Length ahead)
  let piece ← slice? ahead 0 length
  some (piece, n + length)

def opensAt? (s : List Char) (word : String) (n : Nat) : Option Bool := do
  let ahead ← aheadAt? s n
  some (opensBytes (bytes word) (bytes (String.ofList ahead)))

def keywordHereAt? (s : List Char) (words : List String) (n : Nat) :
    Option (Option String × Nat) := do
  let ahead ← aheadAt? s n
  match words.find? fun word => standsInBytes (bytes word) (bytes (String.ofList ahead)) with
  | some word => some (some word, n + word.utf8ByteSize)
  | none => some (none, n)

def keywordAt? (s : List Char) (words : List String) (n : Nat) :
    Option (Option String × Nat) := do
  let (_, here) ← runAt? s isAsciiBlank n
  let (found, stop) ← keywordHereAt? s words here
  some (found, if found.isSome then stop else n)

def digitsAt? (s : List Char) (start n : Nat) : Option (Option String × Nat) := do
  let (digits, stop) ← runAt? s isNumberChar n
  if digits.any Char.isDigit then
    let number ← slice? s start stop
    some (some (String.ofList number), stop)
  else some (none, start)

def numberAt? (s : List Char) (n : Nat) : Option (Option String × Nat) := do
  let (_, here) ← eatAt? s '-' n
  digitsAt? s n here

def sizeAt? (s : List Char) (nonNegative : Bool) (n : Nat) : Option (Option String × Nat) := do
  let (_, here) ← runAt? s isAsciiBlank n
  let (number, stop) ← numberAt? s here
  match number with
  | none => (resetAt? s n).map (none, ·)
  | some number =>
      let (unit, stop) ← keywordHereAt? s units stop
      let size := if nonNegative && number.toList.head? == some '-' then "0"
        else number ++ unit.getD "px"
      some (some size, stop)

def hexadecimalAt? (s : List Char) (start n : Nat) : Option (Option String × Nat) := do
  let (digits, stop) ← runAt? s isHexDigit n
  if digits.isEmpty then (resetAt? s start).map (none, ·)
  else some (some (String.ofList ('#' :: digits)), stop)

def rgbAt? (s : List Char) (n : Nat) : Option (Option String × Nat) := do
  let (_, close) ← runAt? s (· != ')') n
  let (_, stop) ← eatAt? s ')' close
  some (some rgbColorName, stop)

def colorNameAt? (s : List Char) (start n : Nat) : Option (Option String × Nat) := do
  let (name, stop) ← keywordAt? s namedColors n
  if name.isSome then some (name, stop)
  else
    let (name, stop) ← keywordAt? s systemColors stop
    if name.isSome then some (some systemColorName, stop)
    else (resetAt? s start).map (none, ·)

def colorAt? (s : List Char) (n : Nat) : Option (Option String × Nat) := do
  let (_, here) ← runAt? s isAsciiBlank n
  let (marked, here) ← eatAt? s '#' here
  if marked then hexadecimalAt? s n here
  else
    let rgb ← opensAt? s "rgb" here
    if rgb then rgbAt? s here else colorNameAt? s n here

def Answer.piece (piece : List Char) : Answer := .text (some (String.ofList piece))

def stepAt? (s : List Char) (n : Nat) : Step → Option (Answer × Nat)
  | .peek => (aheadAt? s n).map fun ahead => (.char ahead.head?, n)
  | .advance => (advanceAt? s n).map (Prod.map .char id)
  | .eat expected => (eatAt? s expected n).map (Prod.map .flag id)
  | .skipBlanks => (runAt? s isAsciiBlank n).map (Prod.map (fun _ => .none) id)
  | .scanUntil stops => (runAt? s (!stops.contains ·) n).map (Prod.map .piece id)
  | .hexDigits => (runAt? s isHexDigit n).map (Prod.map .piece id)
  | .startsWith word => (opensAt? s word n).map fun opens => (.flag opens, n)
  | .keyword words => (keywordAt? s words n).map (Prod.map .text id)
  | .keywordHere words => (keywordHereAt? s words n).map (Prod.map .text id)
  | .number => (numberAt? s n).map (Prod.map .text id)
  | .rest => (aheadAt? s n).map fun ahead => (.piece ahead, n)
  | .color => (colorAt? s n).map (Prod.map .text id)
  | .size nonNegative => (sizeAt? s nonNegative n).map (Prod.map .text id)

def found (s t : List Char) (read : Option (String × List Char)) : Option String × Nat :=
  read.elim (none, tailOffset s t) fun (value, rest) => (some value, tailOffset s rest)

section Offset

variable {s t : List Char} {words : List String}

theorem aheadAt?_tailOffset (h : t <:+ s) : aheadAt? s (tailOffset s t) = some t :=
  slice?_tailOffset_end h

theorem resetAt?_tailOffset (h : t <:+ s) :
    resetAt? s (tailOffset s t) = some (tailOffset s t) := by
  obtain ⟨before, rfl⟩ := h
  rw [resetAt?, cutAt?_tailOffset, Option.map_some, Nat.min_eq_left (tailOffset_le _ _)]

theorem resetAt?_of_isOffset {n : Nat} (h : IsOffset s n) : resetAt? s n = some n := by
  obtain ⟨before, after, rfl, rfl⟩ := h
  have hreset := resetAt?_tailOffset (List.suffix_append before after)
  rwa [tailOffset_append] at hreset

theorem advanceAt?_tailOffset (h : t <:+ s) :
    advanceAt? s (tailOffset s t) = some (t.head?, tailOffset s t.tail) := by
  rw [advanceAt?, aheadAt?_tailOffset h, Option.bind_eq_bind, Option.bind_some]
  cases t with
  | nil => rfl
  | cons c t => exact congrArg (fun n => some (some c, n)) (tailOffset_cons_add h)

theorem eatAt?_tailOffset (h : t <:+ s) (expected : Char) : eatAt? s expected (tailOffset s t) =
    if t.head? = some expected then some (true, tailOffset s t.tail)
    else some (false, tailOffset s t) := by
  rw [eatAt?, aheadAt?_tailOffset h, Option.bind_eq_bind, Option.bind_some]
  split
  · rename_i hhead
    obtain ⟨rest, rfl⟩ := List.head?_eq_some_iff.1 hhead
    rw [tailOffset_cons_add h]
    rfl
  · rfl

theorem runAt?_tailOffset (h : t <:+ s) (p : Char → Bool) : runAt? s p (tailOffset s t) =
    some (t.takeWhile p, tailOffset s (t.dropWhile p)) := by
  rw [runAt?, aheadAt?_tailOffset h, Option.bind_eq_bind, Option.bind_some]
  simp only [offsetWhere?_getD, Bool.not_not]
  have hsplit := List.takeWhile_append_dropWhile (p := p) (l := t)
  have hslice : slice? t 0 (utf8Length (t.takeWhile p)) = some (t.takeWhile p) :=
    slice?_eq_some_iff.2 ⟨[], t.dropWhile p, hsplit.symm, rfl, rfl⟩
  have hoffset := tailOffset_append_add (hsplit.symm ▸ h)
  rw [hsplit] at hoffset
  rw [hslice, hoffset]
  rfl

theorem opensAt?_tailOffset (h : t <:+ s) (word : String) :
    opensAt? s word (tailOffset s t) = some (startsWithWord word.toList t) := by
  rw [opensAt?, aheadAt?_tailOffset h, Option.bind_eq_bind, Option.bind_some, bytes_eq_utf8,
    bytes_eq_utf8, String.toList_ofList, opensBytes_utf8]
  rfl

theorem find?_standsInBytes (words : List String) (t : List Char) :
    words.find? (fun word => standsInBytes (bytes word) (bytes (String.ofList t))) =
      (keywordHere? words t).map Prod.fst := by
  have hstands : ∀ word : String, standsInBytes (bytes word) (bytes (String.ofList t)) =
      (dropWord? word.toList t).any endsWord := by
    intro word
    rw [bytes_eq_utf8, bytes_eq_utf8, String.toList_ofList, standsInBytes_utf8]
    rfl
  rw [keywordHere?]
  induction words with
  | nil => rfl
  | cons word words ih =>
      rw [List.find?_cons, List.findSome?_cons, hstands, ih]
      cases dropWord? word.toList t with
      | none => rfl
      | some rest =>
          rw [Option.any_some, Option.bind_some]
          cases endsWord rest <;> rfl

theorem keywordHereAt?_tailOffset (h : t <:+ s) (words : List String) :
    keywordHereAt? s words (tailOffset s t) = some (found s t (keywordHere? words t)) := by
  rw [keywordHereAt?, aheadAt?_tailOffset h, Option.bind_eq_bind, Option.bind_some,
    find?_standsInBytes]
  cases hread : keywordHere? words t with
  | none => rfl
  | some read =>
      obtain ⟨word, rest⟩ := read
      obtain ⟨front, hfront, rfl⟩ := dropWord?_eq_some_iff.1 (of_keywordHere? hread).2.1
      have hsize : utf8Length front = word.utf8ByteSize := by
        rw [← utf8Length_folded, hfront, utf8Length_folded, ← utf8ByteSize_ofList,
          String.ofList_toList]
      have hoffset := tailOffset_append_add h
      rw [hsize] at hoffset
      exact congrArg (fun n => some (some word, n)) hoffset

theorem keywordAt?_tailOffset (h : t <:+ s) (words : List String) :
    keywordAt? s words (tailOffset s t) = some (found s t (keyword? words t)) := by
  rw [keywordAt?, runAt?_tailOffset h, Option.bind_eq_bind, Option.bind_some]
  dsimp only
  rw [keywordHereAt?_tailOffset ((List.dropWhile_suffix _).trans h), Option.bind_eq_bind,
    Option.bind_some, keyword?, skipBlanks]
  cases keywordHere? words (t.dropWhile isAsciiBlank) <;> rfl

theorem digitsAt?_tailOffset (sign : List Char) (h : sign ++ t <:+ s) :
    digitsAt? s (tailOffset s (sign ++ t)) (tailOffset s t) = some (found s (sign ++ t)
      (if (t.takeWhile isNumberChar).any Char.isDigit then
        some (String.ofList (sign ++ t.takeWhile isNumberChar), t.dropWhile isNumberChar)
      else none)) := by
  rw [digitsAt?, runAt?_tailOffset ((List.suffix_append _ _).trans h), Option.bind_eq_bind,
    Option.bind_some]
  dsimp only
  split
  · have hsplit : sign ++ t = sign ++ t.takeWhile isNumberChar ++ t.dropWhile isNumberChar := by
      rw [List.append_assoc, List.takeWhile_append_dropWhile]
    have hslice := slice?_tailOffset (hsplit ▸ h)
    rw [← hsplit] at hslice
    rw [hslice]
    rfl
  · rfl

theorem numberAt?_tailOffset (h : t <:+ s) :
    numberAt? s (tailOffset s t) = some (found s t (number? t)) := by
  rw [numberAt?, eatAt?_tailOffset h]
  split
  · rename_i hhead
    obtain ⟨rest, rfl⟩ := List.head?_eq_some_iff.1 hhead
    exact digitsAt?_tailOffset ['-'] h
  · rename_i hhead
    rw [number?_unsigned hhead]
    exact digitsAt?_tailOffset [] h

theorem sizeAt?_tailOffset (h : t <:+ s) (nonNegative : Bool) :
    sizeAt? s nonNegative (tailOffset s t) = some (found s t (size? nonNegative t)) := by
  have hblanks : skipBlanks t <:+ s := (skipBlanks_suffix t).trans h
  rw [sizeAt?, runAt?_tailOffset h, Option.bind_eq_bind, Option.bind_some]
  dsimp only
  rw [← skipBlanks, numberAt?_tailOffset hblanks, Option.bind_eq_bind, Option.bind_some, size?]
  cases hnumber : number? (skipBlanks t) with
  | none =>
      simp only [found, Option.elim_none, resetAt?_tailOffset h]
      rfl
  | some read =>
      obtain ⟨number, rest⟩ := read
      have hrest : rest <:+ s := by
        rw [(of_number? hnumber).1] at hblanks
        exact (List.suffix_append _ _).trans hblanks
      simp only [found, Option.elim_some, Option.map_some, keywordHereAt?_tailOffset hrest]
      cases keywordHere? units rest <;> rfl

theorem hexadecimalAt?_tailOffset {u : List Char} (h : t <:+ s) (hu : u <:+ s) :
    hexadecimalAt? s (tailOffset s t) (tailOffset s u) =
      some (found s t (if (u.takeWhile isHexDigit).isEmpty then none
        else some (String.ofList ('#' :: u.takeWhile isHexDigit), u.dropWhile isHexDigit))) := by
  rw [hexadecimalAt?, runAt?_tailOffset hu, Option.bind_eq_bind, Option.bind_some]
  dsimp only
  rw [resetAt?_tailOffset h]
  split <;> rfl

theorem rgbAt?_tailOffset (h : t <:+ s) :
    rgbAt? s (tailOffset s t) = some (some rgbColorName, tailOffset s (skipPast ')' t)) := by
  rw [rgbAt?, runAt?_tailOffset h, Option.bind_eq_bind, Option.bind_some]
  dsimp only
  rw [eatAt?_tailOffset ((List.dropWhile_suffix _).trans h), skipPast]
  rcases dropWhile_bne_cases ')' t with hdrop | ⟨u, hdrop⟩
  · rw [hdrop]
    rfl
  · rw [hdrop]
    rfl

theorem colorNameAt?_tailOffset {u : List Char} (h : t <:+ s) (hu : u <:+ s) :
    colorNameAt? s (tailOffset s t) (tailOffset s u) =
      some (found s t ((keyword? namedColors u).or
        ((keyword? systemColors u).map fun (_, rest) => (systemColorName, rest)))) := by
  rw [colorNameAt?, keywordAt?_tailOffset hu, Option.bind_eq_bind, Option.bind_some]
  cases keyword? namedColors u with
  | some read => rfl
  | none =>
      simp only [found, Option.elim_none, Option.isSome_none, keywordAt?_tailOffset hu]
      cases keyword? systemColors u with
      | some read => rfl
      | none =>
          simp only [resetAt?_tailOffset h]
          rfl

theorem colorAt?_tailOffset (h : t <:+ s) :
    colorAt? s (tailOffset s t) = some (found s t (color? t)) := by
  have hblanks : skipBlanks t <:+ s := (skipBlanks_suffix t).trans h
  rw [colorAt?, runAt?_tailOffset h, Option.bind_eq_bind, Option.bind_some]
  dsimp only
  rw [← skipBlanks, eatAt?_tailOffset hblanks]
  split
  · rename_i hhash
    obtain ⟨u, hu⟩ := List.head?_eq_some_iff.1 hhash
    rw [color?_hash hu, hu]
    rw [hu] at hblanks
    exact hexadecimalAt?_tailOffset h ((List.suffix_cons _ _).trans hblanks)
  · rename_i hword
    have hletters : "rgb".toList = ['r', 'g', 'b'] := by decide
    rw [color?_word hword, Option.bind_eq_bind, Option.bind_some]
    dsimp only
    rw [if_neg Bool.false_ne_true, opensAt?_tailOffset hblanks, Option.bind_eq_bind,
      Option.bind_some, hletters]
    split
    · exact rgbAt?_tailOffset hblanks
    · exact colorNameAt?_tailOffset h hblanks

end Offset

end Cursor

end FlatStyle
