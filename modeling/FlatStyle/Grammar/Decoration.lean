import FlatStyle.Grammar.Reading
import FlatStyle.Grammar.Size

namespace FlatStyle.Grammar

def decorationKey (line : String) : String := "text-decoration-" ++ line

theorem length_lt_of_decoration {s rest : List Char} {word : String}
    (h : keyword? decorations s = some (word, rest)) : rest.length < s.length := by
  have hlen : ∀ w ∈ decorations, 0 < w.toList.length := by decide
  have := hlen word (of_keyword? h).1
  have := length_of_keyword? h
  omega

/-- The lines named before `none` or a word that is no decoration. -/
def decorationWords (s : List Char) : List String × List Char :=
  match _word : keyword? decorations s with
  | none => ([], s)
  | some (word, t) =>
      if word = "none" then ([], t)
      else
        let (words, rest) := decorationWords t
        (word :: words, rest)
termination_by s.length
decreasing_by exact length_lt_of_decoration _word

/-- All lines are switched off, then those that are named on; no value is refused. -/
def textDecoration : Grammar := fun s =>
  let (words, rest) := decorationWords s
  ⟨true, decorationLines.map (fun line => (decorationKey line, "false")) ++
    words.map (fun line => (decorationKey line, "true")), rest⟩

def verticalAlign : Grammar :=
  single "vertical-align" ((keyword? verticalAligns).orElse (size? false))

end FlatStyle.Grammar
