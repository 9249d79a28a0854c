import FlatStyle.Markup.Reference

/-!
The tokens of HTML text. How a text is cut depends on the element it stands in: most elements hold
markup, some only text with character references, some only plain text.
-/

namespace FlatStyle.Markup

open Text

structure Tag where
  name : String
  attributes : List (String × String)

inductive Token where
  | doctype (name : Option String) (publicId systemId : Option String) (malformed : Bool)
  | startTag (tag : Tag)
  | endTag (name : String)
  | comment (text : String)
  /-- A run of blanks. -/
  | blanks (text : String)
  /-- A run of other characters. -/
  | text (text : String)
  /-- The character with number zero. -/
  | nul
  | finish

/-- A token cut off the front of a text, what follows it, and whether anything faulty that is no
token had to be passed over or mended on the way. -/
structure Cut where
  token : Token
  rest : List Char
  faulty : Bool

def Cut.sound (cut : Token × List Char) : Cut := ⟨cut.1, cut.2, false⟩

/-- What the text at hand may hold. The end tag with the given name ends the plain kinds. -/
inductive ContentModel where
  | markup
  | referencesOnly (name : String)
  | plain (name : String)
  | script
  | plainToEnd

def replaceNul (s : List Char) : List Char :=
  s.map fun c => if c.toNat = 0 then replacement else c

def lowerAscii (s : List Char) : List Char := s.map Char.toLower

/-! ### Tags -/

def endsTagName (c : Char) : Bool := isAsciiBlank c || c == '/' || c == '>'

/-- Reads the attributes of a tag up to its end. A text that ends before gives no tag. -/
def attributes? : Nat → List (String × String) → List Char →
    Option (List (String × String) × List Char)
  | 0, _, _ => none
  | n + 1, found, s =>
      match s.dropWhile isAsciiBlank with
      | [] => none
      | '>' :: t => some (found, t)
      | '/' :: t => attributes? n found t
      | c :: t =>
          let isNameChar := fun c => !endsTagName c && c != '='
          let name := String.ofList (replaceNul (lowerAscii (c :: t.takeWhile isNameChar)))
          let add (value : List Char) :=
            if found.any (·.1 == name) then found
            else found ++ [(name, String.ofList (decodeAttribute value))]
          let t := t.dropWhile isNameChar
          match t.dropWhile isAsciiBlank with
          | '=' :: u =>
              match u.dropWhile isAsciiBlank with
              | '"' :: v =>
                  attributes? n (add (v.takeWhile (· != '"'))) ((v.dropWhile (· != '"')).drop 1)
              | '\'' :: v =>
                  attributes? n (add (v.takeWhile (· != '\''))) ((v.dropWhile (· != '\'')).drop 1)
              | v =>
                  let isValueChar := fun c => !isAsciiBlank c && c != '>'
                  attributes? n (add (v.takeWhile isValueChar)) (v.dropWhile isValueChar)
          | u => attributes? n (add []) u

def tag? (s : List Char) : Option (Tag × List Char) :=
  let name := s.takeWhile (!endsTagName ·)
  let rest := s.dropWhile (!endsTagName ·)
  (attributes? (rest.length + 1) [] rest).map fun (attributes, rest) =>
    (⟨String.ofList (replaceNul (lowerAscii name)), attributes⟩, rest)

/-! ### Comments and document types -/

def commentText : List Char → List Char × List Char
  | [] => ([], [])
  | ['-'] => ([], [])
  | ['-', '-'] => ([], [])
  | ['-', '-', '!'] => ([], [])
  | '-' :: '-' :: '>' :: t => ([], t)
  | '-' :: '-' :: '!' :: '>' :: t => ([], t)
  | c :: t =>
      let (text, rest) := commentText t
      (c :: text, rest)

def comment (s : List Char) : Token × List Char :=
  let (text, rest) := match s with
    | '>' :: t => ([], t)
    | '-' :: '>' :: t => ([], t)
    | s => commentText s
  (.comment (String.ofList (replaceNul text)), rest)

/-- What stands in for a comment where no declaration can be read: all text up to a `>`. -/
def bogusComment (s : List Char) : Token × List Char :=
  (.comment (String.ofList (replaceNul (s.takeWhile (· != '>')))),
    (s.dropWhile (· != '>')).drop 1)

def quotedIdentifier? (s : List Char) : Option (String × Bool × List Char) :=
  let read (quote : Char) (t : List Char) :=
    let text := String.ofList (replaceNul (t.takeWhile fun c => c != quote && c != '>'))
    match t.dropWhile fun c => c != quote && c != '>' with
    | [] => some (text, false, [])
    | c :: u => some (text, c == quote, if c == quote then u else c :: u)
  match s.dropWhile isAsciiBlank with
  | '"' :: t => read '"' t
  | '\'' :: t => read '\'' t
  | _ => none

def doctype (s : List Char) : Token × List Char :=
  let s := s.dropWhile isAsciiBlank
  let nameChars := s.takeWhile fun c => !isAsciiBlank c && c != '>'
  let name := if nameChars.isEmpty then none
    else some (String.ofList (replaceNul (lowerAscii nameChars)))
  let rest := (s.dropWhile fun c => !isAsciiBlank c && c != '>').dropWhile isAsciiBlank
  let close (publicId systemId : Option String) (malformed : Bool) (t : List Char) :=
    let rest := t.dropWhile (· != '>')
    (Token.doctype name publicId systemId (malformed || rest.isEmpty), rest.drop 1)
  let system (publicId : Option String) (required : Bool) (t : List Char) :=
    match quotedIdentifier? t with
    | some (systemId, closed, u) => close publicId (some systemId) (!closed) u
    | none =>
        let atEnd := (t.dropWhile isAsciiBlank).head? == some '>'
        close publicId none (required || !atEnd) t
  if name.isNone then close none none true rest
  else if rest.head? == some '>' then close none none false rest
  else
    match dropWord? "public".toList rest with
    | some t =>
        match quotedIdentifier? t with
        | some (publicId, true, u) => system (some publicId) false u
        | some (publicId, false, u) => close (some publicId) none true u
        | none => close none none true t
    | none =>
        match dropWord? "system".toList rest with
        | some t => system none true t
        | none => close none none true rest

def declaration (s : List Char) : Token × List Char :=
  match s with
  | '-' :: '-' :: t => comment t
  | _ =>
      match dropWord? "doctype".toList s with
      | some t => doctype t
      | none => bogusComment s

/-! ### Text -/

def textToken (s : List Char) : Token :=
  if s.all isAsciiBlank then .blanks (String.ofList s) else .text (String.ofList s)

def isEndTag (name : String) (s : List Char) : Bool :=
  match s with
  | '/' :: t => ((dropWord? name.toList t).bind (·.head?)).any endsTagName
  | _ => false

def untilEndTag (name : String) : List Char → List Char × List Char
  | [] => ([], [])
  | '<' :: t =>
      if isEndTag name t then ([], '<' :: t)
      else
        let (text, rest) := untilEndTag name t
        ('<' :: text, rest)
  | c :: t =>
      let (text, rest) := untilEndTag name t
      (c :: text, rest)

/-- How deep a script is in what looks like a comment around scripts. -/
inductive ScriptDepth where
  | outside
  | inComment
  | inCommentedScript

def untilScriptEnd : ScriptDepth → List Char → List Char × List Char
  | _, [] => ([], [])
  | depth, c :: t =>
      let isOpenedScript := ((dropWord? "script".toList t).bind (·.head?)).any endsTagName
      let next : Option ScriptDepth := match depth with
        | .outside =>
            if c == '<' && isEndTag "script" t then none
            else if c == '<' && ['!', '-', '-'].isPrefixOf t then some .inComment
            else some .outside
        | .inComment =>
            if c == '<' && isEndTag "script" t then none
            else if c == '<' && isOpenedScript then some .inCommentedScript
            else if ['-', '-', '>'].isPrefixOf (c :: t) then some .outside
            else some .inComment
        | .inCommentedScript =>
            if c == '<' && isEndTag "script" t then some .inComment
            else if ['-', '-', '>'].isPrefixOf (c :: t) then some .outside
            else some .inCommentedScript
      match next with
      | none => ([], c :: t)
      | some depth =>
          let (text, rest) := untilScriptEnd depth t
          (c :: text, rest)

def endTag (s : List Char) : Token × List Char :=
  match tag? s with
  | some (tag, rest) => (.endTag tag.name, rest)
  | none => (.finish, [])

/-- A token that begins with `&`, read from behind it. A reference without its semicolon is
faulty. -/
def referenceToken (s : List Char) : Cut :=
  match reference? false s with
  | some r => ⟨textToken r.value, r.rest, !r.closed⟩
  | none => .sound (.text "&", s)

def markupToken (s : List Char) : Token × List Char :=
  match s with
  | '!' :: t => declaration t
  | '?' :: _ => bogusComment s
  | ['/'] => (.text "</", [])
  | '/' :: c :: t => if c.isAlpha then endTag (c :: t) else bogusComment (c :: t)
  | c :: _ =>
      if c.isAlpha then
        match tag? s with
        | some (tag, rest) => (.startTag tag, rest)
        | none => (.finish, [])
      else (.text "<", s)
  | [] => (.text "<", s)

def characters (s : List Char) : Token × List Char :=
  let isText := fun c => !isAsciiBlank c && c != '<' && c != '&' && c.toNat != 0
  match s with
  | [] => (.finish, [])
  | c :: t =>
      if c.toNat = 0 then (.nul, t)
      else if isAsciiBlank c then
        (.blanks (String.ofList (s.takeWhile isAsciiBlank)), s.dropWhile isAsciiBlank)
      else (.text (String.ofList (c :: t.takeWhile isText)), t.dropWhile isText)

def plainToken (body rest : List Char) : Token × List Char :=
  match body, rest with
  | [], '<' :: '/' :: t => endTag t
  | [], _ => (.finish, [])
  | body, rest => (textToken (replaceNul body), rest)

def beginsWithEmptyTag : List Char → Bool
  | '<' :: '/' :: '>' :: _ => true
  | _ => false

/-- Passes over the end tags without a name that a text begins with. -/
def skipEmptyTags : List Char → List Char
  | '<' :: '/' :: '>' :: t => skipEmptyTags t
  | s => s

def nextInMarkup (s : List Char) : Cut :=
  let cut : Cut := match skipEmptyTags s with
    | '<' :: t => .sound (markupToken t)
    | '&' :: t => referenceToken t
    | t => .sound (characters t)
  { cut with faulty := cut.faulty || beginsWithEmptyTag s }

def nextToken (model : ContentModel) (s : List Char) : Cut :=
  match model with
  | .markup => nextInMarkup s
  | .referencesOnly name =>
      match s with
      | '&' :: t => referenceToken t
      | s =>
          let (body, rest) := untilEndTag name (s.takeWhile (· != '&'))
          .sound (plainToken body (rest ++ s.dropWhile (· != '&')))
  | .plain name =>
      let (body, rest) := untilEndTag name s
      .sound (plainToken body rest)
  | .script =>
      let (body, rest) := untilScriptEnd .outside s
      .sound (plainToken body rest)
  | .plainToEnd => .sound (plainToken s [])

end FlatStyle.Markup
