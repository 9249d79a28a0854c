import FlatStyle.Grammar.Reading
import FlatStyle.Grammar.Vocabulary

namespace FlatStyle.Grammar

def listStyleType : Grammar := single "list-style-type" (keyword? listStyleTypes)

def listStylePosition : Grammar := single "list-style-position" (keyword? listStylePositions)

/-- Passes over a marker image, which writes nothing. -/
def listStyleImage : Grammar := fun s =>
  let t := skipBlanks s
  if startsWithWord ['u', 'r', 'l', '('] t then ⟨true, [], skipPast ')' t⟩ else .refused s

def listStyle : Grammar :=
  repeated (orElse listStyleType (orElse listStylePosition listStyleImage))

end FlatStyle.Grammar
