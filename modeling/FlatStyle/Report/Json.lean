import FlatStyle.Report.Basic

namespace FlatStyle

inductive JsonValue where
  | string (value : String)
  | array (items : List JsonValue)
  | object (fields : List (String × JsonValue))

namespace JsonValue

def hexDigit (n : Nat) : Char := (Nat.digitChar n)

def escapeChar (c : Char) : List Char :=
  if c = '"' then ['\\', '"']
  else if c = '\\' then ['\\', '\\']
  else if c = '\n' then ['\\', 'n']
  else if c = '\r' then ['\\', 'r']
  else if c = '\t' then ['\\', 't']
  else if c = '\x08' then ['\\', 'b']
  else if c = '\x0c' then ['\\', 'f']
  else if c.toNat < 0x20 then
    ['\\', 'u', '0', '0', hexDigit (c.toNat / 16), hexDigit (c.toNat % 16)]
  else [c]

def quote (s : String) : String := "\"" ++ String.ofList (s.toList.flatMap escapeChar) ++ "\""

def indent (depth : Nat) : String := String.ofList (List.replicate (2 * depth) ' ')

def bracket (opening closing : String) (depth : Nat) (entries : List String) : String :=
  if entries.isEmpty then opening ++ closing
  else
    opening ++ "\n" ++
      String.intercalate ",\n" (entries.map fun entry => indent (depth + 1) ++ entry) ++
      "\n" ++ indent depth ++ closing

mutual

def render (depth : Nat) : JsonValue → String
  | .string value => quote value
  | .array items => bracket "[" "]" depth (renderItems (depth + 1) items)
  | .object fields => bracket "\x7b" "\x7d" depth (renderFields (depth + 1) fields)

def renderItems (depth : Nat) : List JsonValue → List String
  | [] => []
  | item :: items => item.render depth :: renderItems depth items

def renderFields (depth : Nat) : List (String × JsonValue) → List String
  | [] => []
  | (name, value) :: fields =>
      (quote name ++ ": " ++ value.render depth) :: renderFields depth fields

end

end JsonValue

open JsonValue

def Rule.json (r : Rule) : JsonValue :=
  object [("selector", string r.selector), ("declaration", string r.declaration)]

def ElementStyle.pathText (e : ElementStyle) : String := String.intercalate " > " e.path

def ElementStyle.json (e : ElementStyle) : JsonValue :=
  object [("path", string e.pathText),
    ("properties", object (e.properties.toList.map fun p => (p.1, string p.2)))]

/-- The rules come first if they are wanted, and the warnings last if there are any. -/
def Report.json (r : Report) (withRules : Bool) : JsonValue :=
  let rules := if withRules then [("rules", object [("rules", array (r.rules.map Rule.json))])]
    else []
  let warnings := if r.warnings.isEmpty then [] else [("warnings", array (r.warnings.map string))]
  object (rules ++ [("elements", array (r.elements.map ElementStyle.json))] ++ warnings)

end FlatStyle
