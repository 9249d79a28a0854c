import FlatStyle.Stylesheet.Comment
import FlatStyle.Stylesheet.Item
import FlatStyle.Text.Lowercase
import FlatStyle.Warning

namespace FlatStyle

open Text Stylesheet

/-- One selector and the declaration text of its block, both trimmed and in lower case. -/
structure Rule where
  selector : String
  declaration : String
  deriving DecidableEq

namespace Rule

/-- A rule for each fragment between the commas of a selector list; blank texts give none. -/
def ofBlock (selectors declaration : List Char) : List Rule :=
  let selectors := lower (trim selectors)
  let declaration := lower (trim declaration)
  if selectors.isEmpty || declaration.isEmpty then []
  else
    (fields (· == ',') selectors).filterMap fun fragment =>
      let selector := trim fragment
      if selector.isEmpty then none
      else some ⟨String.ofList selector, String.ofList declaration⟩

end Rule

namespace Stylesheet

/-- A block of two bytes or fewer carries no declaration. -/
def Item.rules : Item → List Rule
  | .atRule _ => []
  | .rule selectors block => if utf8Length block > 2 then Rule.ofBlock selectors block else []

def Item.warnings : Item → List Warning
  | .atRule text => [⟨"CSS", "skipped at-rule '" ++ String.ofList (trim text) ++ "'"⟩]
  | .rule _ _ => []

end Stylesheet

structure Sheet where
  rules : List Rule
  warnings : List Warning

namespace Sheet

def empty : Sheet := ⟨[], []⟩

instance : EmptyCollection Sheet := ⟨empty⟩

instance : Append Sheet := ⟨fun s t => ⟨s.rules ++ t.rules, s.warnings ++ t.warnings⟩⟩

def ofItem (item : Item) : Sheet := ⟨item.rules, item.warnings⟩

def concat (sheets : List Sheet) : Sheet := sheets.foldr (· ++ ·) ∅

/-- Reads a text without looking for comments. -/
def ofBare (s : List Char) : Sheet := concat ((items s).map ofItem)

def ofText (s : List Char) : Sheet := ofBare (stripComments s)

@[simp] theorem rules_append (s t : Sheet) : (s ++ t).rules = s.rules ++ t.rules := rfl

@[simp] theorem warnings_append (s t : Sheet) :
    (s ++ t).warnings = s.warnings ++ t.warnings := rfl

end Sheet

end FlatStyle
