import FlatStyle.Report.Json

namespace FlatStyle

def bold (s : String) : String := "\x1b[1m" ++ s ++ "\x1b[0m"

def dimmed (s : String) : String := "\x1b[2m" ++ s ++ "\x1b[0m"

def green (s : String) : String := "\x1b[32m" ++ s ++ "\x1b[39m"

def cyan (s : String) : String := "\x1b[36m" ++ s ++ "\x1b[39m"

def Rule.line (r : Rule) : String := green r.selector ++ " \x7b " ++ r.declaration ++ " \x7d"

def ElementStyle.lines (e : ElementStyle) : List String :=
  cyan e.pathText :: e.properties.toList.map fun p => "  " ++ dimmed p.1 ++ ": " ++ p.2

def Report.lines (r : Report) (withRules : Bool) : List String :=
  let rules := if withRules then bold "=== Rules ===" :: r.rules.map Rule.line ++ [""] else []
  let summary := toString r.elements.length ++ " styled elements, " ++
    toString r.warnings.length ++ " warnings"
  rules ++ bold "=== Resolved Styles ===" :: r.elements.flatMap ElementStyle.lines ++ ["", summary]

end FlatStyle
