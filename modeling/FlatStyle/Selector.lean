import FlatStyle.Document.Element
import FlatStyle.Text.Split

namespace FlatStyle

open Text

structure SelectorLevel where
  tag : Option String
  className : Option String
  ident : Option String
  deriving DecidableEq

namespace SelectorLevel

def tagOf (s : List Char) : Option String := if s.isEmpty then none else some (String.ofList s)

/-- The first `.` sets off a class; without one, the first `#` sets off an id; without either, all
is a tag. -/
def ofWord? (word : List Char) : Option SelectorLevel :=
  if word.isEmpty then none
  else
    match splitFirst? ['.'] word with
    | some (tag, value) => some ⟨tagOf tag, some (String.ofList value), none⟩
    | none =>
        match splitFirst? ['#'] word with
        | some (tag, value) => some ⟨tagOf tag, none, some (String.ofList value)⟩
        | none => some ⟨some (String.ofList word), none, none⟩

/-- Names and attribute values are compared whole and with their case. -/
def matchesElement (level : SelectorLevel) (e : Element) : Bool :=
  level.tag.all (· == e.name) && level.className.all (e.className? == some ·) &&
    level.ident.all (e.ident? == some ·)

end SelectorLevel

def selectorMatches (selector : String) (e : Element) : Bool :=
  match (lastWord? selector.toList).bind SelectorLevel.ofWord? with
  | some level => level.matchesElement e
  | none => false

end FlatStyle
