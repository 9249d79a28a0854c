import FlatStyle.SortedMap
import FlatStyle.Text.Character

namespace FlatStyle

structure Element where
  name : String
  attributes : SortedMap String String

namespace Element

/-- Of attributes with the same name the last one counts. -/
def ofAttributes (name : String) (attributes : List (String × String)) : Element :=
  ⟨name, .ofList attributes⟩

def attribute? (e : Element) (name : String) : Option String := e.attributes.get? name

def ident? (e : Element) : Option String := e.attribute? "id"

/-- The whole `class` attribute, not cut into words. -/
def className? (e : Element) : Option String := e.attribute? "class"

def style? (e : Element) : Option String := e.attribute? "style"

def isNamed (e : Element) (name : String) : Bool :=
  Text.sameLetters e.name.toList name.toList

end Element

end FlatStyle
