import FlatStyle.Property.Apply
import FlatStyle.Text.Lowercase
import FlatStyle.Text.Split

namespace FlatStyle

open Text

/-- A normalized pair: both parts trimmed and in lower case, the value without its quotes. -/
structure Declaration where
  name : String
  value : String

namespace Declaration

def stripQuote? (quote : Char) : List Char → Option (List Char)
  | [] => none
  | c :: s =>
      if c = quote ∧ s.getLast? = some quote then some s.dropLast else none

def unquote (s : List Char) : List Char :=
  ((stripQuote? '"' s).or (stripQuote? '\'' s)).getD s

/-- Only a candidate with exactly one colon is a declaration. -/
def ofCandidate? (candidate : List Char) : Option Declaration :=
  match fields (· == ':') candidate with
  | [name, value] =>
      some ⟨String.ofList (lower (trim name)), String.ofList (lower (unquote (trim value)))⟩
  | _ => none

def ofChars (s : List Char) : List Declaration := (fields (· == ';') s).filterMap ofCandidate?

def ofText (text : String) : List Declaration := ofChars text.toList

def writes (d : Declaration) : List (String × String) :=
  match Property.ofName? d.name with
  | some p => (p.grammar d.value.toList).writes
  | none => []

end Declaration

def PropertyMap.declare (map : PropertyMap) (text : String) : PropertyMap :=
  (Declaration.ofText text).foldl (fun map d => map.insertAll d.writes) map

/-- The text of a style rule followed by that of the element itself, which thus has the last
word. -/
def combineTexts : Option String → Option String → Option String
  | some sheet, some inline => some (sheet ++ ";" ++ inline)
  | some sheet, none => some sheet
  | none, inline => inline

def resolveTexts (sheet inline : Option String) : PropertyMap :=
  match combineTexts sheet inline with
  | some text => PropertyMap.declare ∅ text
  | none => ∅

end FlatStyle
