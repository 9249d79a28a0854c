/-!
The keywords of the value grammars, in the order in which they are tried and spelled as they are
emitted.
-/

namespace FlatStyle.Grammar

def sides : List String := ["top", "right", "bottom", "left"]

def borderStyles : List String :=
  ["none", "hidden", "dotted", "dashed", "solid", "double", "groove", "ridge", "inset", "outset"]

def namedColors : List String := [
  "aliceblue", "antiquewhite", "aqua", "aquamarine", "azure", "beige", "bisque", "black",
  "blanchedalmond", "blue", "blueviolet", "brown", "burlywood", "cadetblue", "chartreuse",
  "chocolate", "coral", "cornflowerblue", "cornsilk", "crimson", "cyan", "darkblue",
  "darkcyan", "darkgoldenrod", "darkgray", "darkgreen", "darkgrey", "darkkhaki",
  "darkmagenta", "darkolivegreen", "darkorange", "darkorchid", "darkred", "darksalmon",
  "darkseagreen", "darkslateblue", "darkslategray", "darkslategrey", "darkturquoise",
  "darkviolet", "deeppink", "deepskyblue", "dimgray", "dimgrey", "dodgerblue", "firebrick",
  "floralwhite", "forestgreen", "fuchsia", "gainsboro", "ghostwhite", "gold", "goldenrod",
  "gray", "green", "greenyellow", "grey", "honeydew", "hotpink", "indianred", "indigo",
  "ivory", "khaki", "lavender", "lavenderblush", "lawngreen", "lemonchiffon", "lightblue",
  "lightcoral", "lightcyan", "lightgoldenrodyellow", "lightgray", "lightgreen", "lightgrey",
  "lightpink", "lightsalmon", "lightseagreen", "lightskyblue", "lightslategray",
  "lightslategrey", "lightsteelblue", "lightyellow", "lime", "limegreen", "linen", "magenta",
  "maroon", "mediumaquamarine", "mediumblue", "mediumorchid", "mediumpurple",
  "mediumseagreen", "mediumslateblue", "mediumspringgreen", "mediumturquoise",
  "mediumvioletred", "midnightblue", "mintcream", "mistyrose", "moccasin", "navajowhite",
  "navy", "oldlace", "olive", "olivedrab", "orange", "orangered", "orchid", "palegoldenrod",
  "palegreen", "paleturquoise", "palevioletred", "papayawhip", "peachpuff", "peru", "pink",
  "plum", "powderblue", "purple", "rebeccapurple", "red", "rosybrown", "royalblue",
  "saddlebrown", "salmon", "sandybrown", "seagreen", "seashell", "sienna", "silver",
  "skyblue", "slateblue", "slategray", "slategrey", "snow", "springgreen", "steelblue", "tan",
  "teal", "thistle", "tomato", "turquoise", "violet", "wheat", "white", "whitesmoke",
  "yellow", "yellowgreen"]

def systemColors : List String := [
  "activeborder", "activecaption", "appworkspace", "background", "buttonface",
  "buttonhighlight", "buttonshadow", "buttontext", "captiontext", "graytext", "highlighttext",
  "highlight", "inactiveborder", "inactivecaptiontext", "inactivecaption", "infobackground",
  "infotext", "menutext", "menu", "scrollbar", "threeddarkshadow", "threedface",
  "threedhighlight", "threedlightshadow", "threedshadow", "windowframe", "windowtext",
  "window"]

def fontStyles : List String := ["normal", "italic", "oblique"]

def fontVariants : List String := ["normal", "small-caps"]

def fontWeights : List String :=
  ["normal", "bold", "bolder", "lighter", "100", "200", "300", "400", "500", "600", "700", "800",
    "900"]

def fontSizes : List String :=
  ["xx-small", "x-small", "small", "medium", "large", "x-large", "xx-large", "larger", "smaller"]

def genericFamilies : List String := ["serif", "sans-serif", "cursive", "fantasy", "monospace"]

def units : List String := ["px", "pt", "pc", "em", "ex", "in", "cm", "mm", "%"]

def listStylePositions : List String := ["inside", "outside"]

def listStyleTypes : List String :=
  ["disc", "circle", "square", "decimal", "lower-roman", "upper-roman", "lower-alpha",
    "upper-alpha", "none"]

def textAligns : List String := ["left", "right", "center", "justify"]

def textTransforms : List String := ["none", "capitalize", "uppercase", "lowercase"]

def whiteSpaces : List String := ["normal", "pre", "nowrap"]

def verticalAligns : List String :=
  ["baseline", "sub", "super", "text-top", "text-bottom", "top", "middle", "bottom"]

def decorationLines : List String := ["underline", "overline", "line-through", "blink"]

def decorations : List String := ["none", "underline", "overline", "line-through", "blink"]

def floats : List String := ["left", "right", "none"]

def clears : List String := ["none", "left", "right", "both"]

end FlatStyle.Grammar
