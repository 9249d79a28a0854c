import FlatStyle.Grammar.Token
import FlatStyle.Grammar.Vocabulary

namespace FlatStyle.Grammar

/-- A number without a unit counts pixels; where a size may not be negative, one below zero becomes
`0`. -/
def size? (nonNegative : Bool) : TokenReader := fun s =>
  (number? (skipBlanks s)).map fun (number, rest) =>
    let (unit, rest) := (keywordHere? units rest).getD ("px", rest)
    (if nonNegative && number.toList.head? == some '-' then "0" else number ++ unit, rest)

end FlatStyle.Grammar
