namespace FlatStyle

inductive Property where
  | font | fontFamily | fontStyle | fontVariant | fontWeight | fontSize | lineHeight | color
  | backgroundColor | background | textDecoration | textAlign | textIndent | textTransform
  | verticalAlign | whiteSpace | wordSpacing | letterSpacing | display | margin | marginTop
  | marginRight | marginBottom | marginLeft | padding | paddingTop | paddingRight
  | paddingBottom | paddingLeft | border | borderWidth | borderStyle | borderColor | borderTop
  | borderRight | borderBottom | borderLeft | borderTopStyle | borderTopColor | borderTopWidth
  | borderRightStyle | borderRightColor | borderRightWidth | borderBottomStyle
  | borderBottomColor | borderBottomWidth | borderLeftStyle | borderLeftColor | borderLeftWidth
  | width | height | float | clear | listStyle | listStyleType | listStylePosition
  | listStyleImage
  deriving DecidableEq

namespace Property

def all : List Property := [
  .font, .fontFamily, .fontStyle, .fontVariant, .fontWeight, .fontSize, .lineHeight, .color,
  .backgroundColor, .background, .textDecoration, .textAlign, .textIndent, .textTransform,
  .verticalAlign, .whiteSpace, .wordSpacing, .letterSpacing, .display, .margin, .marginTop,
  .marginRight, .marginBottom, .marginLeft, .padding, .paddingTop, .paddingRight,
  .paddingBottom, .paddingLeft, .border, .borderWidth, .borderStyle, .borderColor, .borderTop,
  .borderRight, .borderBottom, .borderLeft, .borderTopStyle, .borderTopColor, .borderTopWidth,
  .borderRightStyle, .borderRightColor, .borderRightWidth, .borderBottomStyle,
  .borderBottomColor, .borderBottomWidth, .borderLeftStyle, .borderLeftColor, .borderLeftWidth,
  .width, .height, .float, .clear, .listStyle, .listStyleType, .listStylePosition,
  .listStyleImage]

def name : Property → String
  | .font => "font"
  | .fontFamily => "font-family"
  | .fontStyle => "font-style"
  | .fontVariant => "font-variant"
  | .fontWeight => "font-weight"
  | .fontSize => "font-size"
  | .lineHeight => "line-height"
  | .color => "color"
  | .backgroundColor => "background-color"
  | .background => "background"
  | .textDecoration => "text-decoration"
  | .textAlign => "text-align"
  | .textIndent => "text-indent"
  | .textTransform => "text-transform"
  | .verticalAlign => "vertical-align"
  | .whiteSpace => "white-space"
  | .wordSpacing => "word-spacing"
  | .letterSpacing => "letter-spacing"
  | .display => "display"
  | .margin => "margin"
  | .marginTop => "margin-top"
  | .marginRight => "margin-right"
  | .marginBottom => "margin-bottom"
  | .marginLeft => "margin-left"
  | .padding => "padding"
  | .paddingTop => "padding-top"
  | .paddingRight => "padding-right"
  | .paddingBottom => "padding-bottom"
  | .paddingLeft => "padding-left"
  | .border => "border"
  | .borderWidth => "border-width"
  | .borderStyle => "border-style"
  | .borderColor => "border-color"
  | .borderTop => "border-top"
  | .borderRight => "border-right"
  | .borderBottom => "border-bottom"
  | .borderLeft => "border-left"
  | .borderTopStyle => "border-top-style"
  | .borderTopColor => "border-top-color"
  | .borderTopWidth => "border-top-width"
  | .borderRightStyle => "border-right-style"
  | .borderRightColor => "border-right-color"
  | .borderRightWidth => "border-right-width"
  | .borderBottomStyle => "border-bottom-style"
  | .borderBottomColor => "border-bottom-color"
  | .borderBottomWidth => "border-bottom-width"
  | .borderLeftStyle => "border-left-style"
  | .borderLeftColor => "border-left-color"
  | .borderLeftWidth => "border-left-width"
  | .width => "width"
  | .height => "height"
  | .float => "float"
  | .clear => "clear"
  | .listStyle => "list-style"
  | .listStyleType => "list-style-type"
  | .listStylePosition => "list-style-position"
  | .listStyleImage => "list-style-image"

def ofName? (name : String) : Option Property := all.find? (·.name == name)

/-- Known properties whose declarations are accepted and produce nothing. -/
def isIgnored : Property → Bool
  | .background | .wordSpacing | .letterSpacing | .display | .borderTop | .borderRight
  | .borderBottom | .borderLeft | .borderTopStyle | .borderTopColor | .borderTopWidth
  | .borderRightStyle | .borderRightColor | .borderRightWidth | .borderBottomStyle
  | .borderBottomColor | .borderBottomWidth | .borderLeftStyle | .borderLeftColor
  | .borderLeftWidth | .listStyleImage => true
  | _ => false

theorem mem_all (p : Property) : p ∈ all := by
  cases p <;> decide

private theorem all_ofName?_name : ∀ p ∈ all, ofName? p.name = some p := by
  decide +kernel

@[simp] theorem ofName?_name (p : Property) : ofName? p.name = some p :=
  all_ofName?_name p (mem_all p)

theorem name_of_ofName? {name : String} {p : Property} (h : ofName? name = some p) :
    p.name = name := by
  simpa using List.find?_some h

end Property

end FlatStyle
