import FlatStyle.Grammar.Reading
import FlatStyle.Grammar.Size
import FlatStyle.Grammar.Color

namespace FlatStyle.Grammar

/-- One value for all four sides, vertical and horizontal, top with horizontal and bottom, or one
for each side. -/
def spread : List String → List String
  | [] => []
  | [all] => [all, all, all, all]
  | [vertical, horizontal] => [vertical, horizontal, vertical, horizontal]
  | [top, horizontal, bottom] => [top, horizontal, bottom, horizontal]
  | top :: right :: bottom :: left :: _ => [top, right, bottom, left]

def sideKey (property side : String) : String := property ++ "-" ++ side

def rectangle (property : String) (token : TokenReader) : Grammar := fun s =>
  match upTo 4 token s with
  | ([], _) => .refused s
  | (values, rest) => ⟨true, (sides.map (sideKey property)).zip (spread values), rest⟩

def sizeRectangle (property : String) : Grammar := rectangle property (size? true)

def borderWidth : Grammar := sizeRectangle "border-width"

def borderStyle : Grammar := rectangle "border-style" (keyword? borderStyles)

def borderColor : Grammar := rectangle "border-color" color?

/-- Widths, styles and colors, each group at most once and in any order. -/
def border : Grammar := eachOnce [borderWidth, borderStyle, borderColor]

def autoSize (key : String) : Grammar := single key ((keyword? ["auto"]).orElse (size? true))

def backgroundColor : Grammar :=
  single "background-color" ((keyword? ["transparent"]).orElse color?)

end FlatStyle.Grammar
