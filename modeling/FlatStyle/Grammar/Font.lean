import FlatStyle.Grammar.Reading
import FlatStyle.Grammar.Size
import FlatStyle.Text.Split

namespace FlatStyle.Grammar

open Text

def fontSize : Grammar :=
  single "font-size" ((keyword? fontSizes).orElse (size? true))

def lineHeight : Grammar :=
  single "line-height" ((keyword? ["normal"]).orElse (size? true))

def isNameChar (c : Char) : Bool := c != ',' && c != ';'

/-- A quoted name, or everything up to a comma or semicolon. -/
def writtenName? (s : List Char) : Option (String × List Char) :=
  match skipBlanks s with
  | '"' :: t => some (String.ofList (t.takeWhile (· != '"')), skipPast '"' t)
  | '\'' :: t => some (String.ofList (t.takeWhile (· != '\'')), skipPast '\'' t)
  | t =>
      let name := trim (t.takeWhile isNameChar)
      if name.isEmpty then none else some (String.ofList name, t.dropWhile isNameChar)

def familyName? : TokenReader := (keyword? genericFamilies).orElse writtenName?

theorem length_le_of_writtenName? {s rest : List Char} {name : String}
    (h : writtenName? s = some (name, rest)) : rest.length ≤ s.length := by
  have hs := length_skipBlanks_le s
  unfold writtenName? at h
  split at h
  · rename_i t heq
    cases h
    have := length_skipPast_le '"' t
    simp only [heq, List.length_cons] at hs
    omega
  · rename_i t heq
    cases h
    have := length_skipPast_le '\'' t
    simp only [heq, List.length_cons] at hs
    omega
  · simp only at h
    split at h
    · cases h
    · cases h
      exact Nat.le_trans (length_dropWhile_le _ _) hs

theorem length_le_of_familyName? {s rest : List Char} {name : String}
    (h : familyName? s = some (name, rest)) : rest.length ≤ s.length := by
  rcases Option.or_eq_some_iff.1 h with h | ⟨_, h⟩
  · have := length_of_keyword? h
    omega
  · exact length_le_of_writtenName? h

/-- The names of a list separated by commas, and the text from which no further name can be read. -/
def families (s : List Char) : List String × List Char :=
  match _name : familyName? s with
  | none => ([], s)
  | some (name, t) =>
      match _comma : skipBlanks t with
      | ',' :: u =>
          let (names, rest) := families u
          (name :: names, rest)
      | u => ([name], u)
termination_by s.length
decreasing_by
  have := length_le_of_familyName? _name
  have := length_skipBlanks_le t
  simp only [_comma, List.length_cons] at this
  omega

def firstFamily? : TokenReader := fun s =>
  match families s with
  | ([], _) => none
  | (name :: _, rest) => some (name, rest)

def fontFamily : Grammar := single "font-family" firstFamily?

def slashLineHeight : Grammar := fun s =>
  match skipBlanks s with
  | '/' :: t =>
      let r := lineHeight t
      if r.accepted then r else .refused s
  | _ => .refused s

/-- Style, variant and weight are tried once each in this order. Without the size that must follow
the shorthand ends and keeps what it has written. -/
def font : Grammar := fun s =>
  let style := single "font-style" (keyword? fontStyles) s
  let variant := single "font-variant" (keyword? fontVariants) style.rest
  let weight := single "font-weight" (keyword? fontWeights) variant.rest
  let size := fontSize weight.rest
  let lead := style.writes ++ variant.writes ++ weight.writes ++ size.writes
  if size.accepted then
    let height := slashLineHeight size.rest
    let family := fontFamily height.rest
    ⟨true, lead ++ height.writes ++ family.writes, family.rest⟩
  else ⟨size.rest.length != s.length, lead, size.rest⟩

end FlatStyle.Grammar
