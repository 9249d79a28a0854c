import FlatStyle.Grammar.Token
import FlatStyle.Grammar.Vocabulary

namespace FlatStyle.Grammar

open Text

def systemColorName : String := "black"

def rgbColorName : String := "gray"

/-- Hexadecimal digits after `#`, `rgb` up to a closing parenthesis, a named color, or a system
color. -/
def color? : TokenReader := fun s =>
  match skipBlanks s with
  | '#' :: t =>
      let digits := t.takeWhile isHexDigit
      if digits.isEmpty then none
      else some (String.ofList ('#' :: digits), t.dropWhile isHexDigit)
  | t =>
      if startsWithWord ['r', 'g', 'b'] t then some (rgbColorName, skipPast ')' t)
      else (keyword? namedColors t).or
        ((keyword? systemColors t).map fun (_, rest) => (systemColorName, rest))

end FlatStyle.Grammar
