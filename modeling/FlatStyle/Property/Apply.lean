import FlatStyle.Property
import FlatStyle.PropertyMap
import FlatStyle.Grammar.Font
import FlatStyle.Grammar.Decoration
import FlatStyle.Grammar.Box
import FlatStyle.Grammar.ListStyle

namespace FlatStyle

open Grammar

/-- An ignored property refuses every value. -/
def Property.grammar : Property → Grammar
  | .font => Grammar.font
  | .fontFamily => Grammar.fontFamily
  | .fontStyle => single "font-style" (keyword? fontStyles)
  | .fontVariant => single "font-variant" (keyword? fontVariants)
  | .fontWeight => single "font-weight" (keyword? fontWeights)
  | .fontSize => Grammar.fontSize
  | .lineHeight => Grammar.lineHeight
  | .color => single "color" color?
  | .backgroundColor => Grammar.backgroundColor
  | .textDecoration => Grammar.textDecoration
  | .textAlign => single "text-align" (keyword? textAligns)
  | .textIndent => single "text-indent" (size? false)
  | .textTransform => single "text-transform" (keyword? textTransforms)
  | .verticalAlign => Grammar.verticalAlign
  | .whiteSpace => single "white-space" (keyword? whiteSpaces)
  | .margin => sizeRectangle "margin"
  | .marginTop => single "margin-top" (size? true)
  | .marginRight => single "margin-right" (size? true)
  | .marginBottom => single "margin-bottom" (size? true)
  | .marginLeft => single "margin-left" (size? true)
  | .padding => sizeRectangle "padding"
  | .paddingTop => single "padding-top" (size? true)
  | .paddingRight => single "padding-right" (size? true)
  | .paddingBottom => single "padding-bottom" (size? true)
  | .paddingLeft => single "padding-left" (size? true)
  | .border => Grammar.border
  | .borderWidth => Grammar.borderWidth
  | .borderStyle => Grammar.borderStyle
  | .borderColor => Grammar.borderColor
  | .width => autoSize "width"
  | .height => autoSize "height"
  | .float => single "float" (keyword? floats)
  | .clear => single "clear" (keyword? clears)
  | .listStyle => Grammar.listStyle
  | .listStyleType => Grammar.listStyleType
  | .listStylePosition => Grammar.listStylePosition
  | .background | .wordSpacing | .letterSpacing | .display | .borderTop | .borderRight
  | .borderBottom | .borderLeft | .borderTopStyle | .borderTopColor | .borderTopWidth
  | .borderRightStyle | .borderRightColor | .borderRightWidth | .borderBottomStyle
  | .borderBottomColor | .borderBottomWidth | .borderLeftStyle | .borderLeftColor
  | .borderLeftWidth | .listStyleImage => Reading.refused

/-- Reads `value` and writes into `map`; tells also whether the value was accepted. -/
def Property.apply (p : Property) (value : String) (map : PropertyMap) : Bool × PropertyMap :=
  let r := p.grammar value.toList
  (r.accepted, map.insertAll r.writes)

end FlatStyle
