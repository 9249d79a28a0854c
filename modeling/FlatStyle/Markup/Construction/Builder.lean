import FlatStyle.Markup.Draft
import FlatStyle.Markup.ElementName
import FlatStyle.Markup.Token

namespace FlatStyle.Markup

inductive Mode where
  | initial
  | beforeHtml
  | beforeHead
  | inHead
  | inHeadNoscript
  | afterHead
  | inBody
  | inText
  | inTable
  | inTableText
  | inCaption
  | inColumnGroup
  | inTableBody
  | inRow
  | inCell
  | inSelect
  | inSelectInTable
  | inTemplate
  | afterBody
  | inFrameset
  | afterFrameset
  | afterAfterBody
  | afterAfterFrameset
  deriving DecidableEq

/-- Formatting that is in force; a marker shuts off what was in force around it. -/
inductive Formatting where
  | marker
  | element (id : Nat) (tag : Tag)

structure Builder where
  draft : Draft
  mode : Mode
  /-- The mode to go back to after text. -/
  returnMode : Mode
  templateModes : List Mode
  /-- The open elements, innermost first. -/
  stack : List Nat
  /-- The formatting in force, newest first. -/
  formatting : List Formatting
  head : Option Nat
  form : Option Nat
  framesetAllowed : Bool
  lenient : Bool
  /-- Whether a line feed is dropped if it comes next. -/
  skipLineFeed : Bool
  /-- Text of a table that waits for its end, with whether it is blank. -/
  tableText : List (String × Bool)
  model : ContentModel

/-- What a rule leaves: the token is used up, or it is to be treated again in the new mode. -/
inductive Outcome where
  | done (b : Builder)
  | again (b : Builder)

namespace Builder

def start : Builder where
  draft := .start
  mode := .initial
  returnMode := .initial
  templateModes := []
  stack := []
  formatting := []
  head := none
  form := none
  framesetAllowed := true
  lenient := false
  skipLineFeed := false
  tableText := []
  model := .markup

def name (b : Builder) (id : Nat) : String := b.draft.name id

def current (b : Builder) : Nat := b.stack.headD 0

def currentName (b : Builder) : String := b.name b.current

def enter (b : Builder) (mode : Mode) : Builder := { b with mode }

def isOpen (b : Builder) (name : String) : Bool := b.stack.any fun id => b.name id == name

def hasTemplate (b : Builder) : Bool := b.isOpen "template"

/-! ### Insertion -/

def insertVoid (b : Builder) (tag : Tag) : Builder :=
  { b with draft := (b.draft.append b.current (.element tag.name tag.attributes)).2 }

def insert (b : Builder) (tag : Tag) : Builder :=
  let (id, draft) := b.draft.append b.current (.element tag.name tag.attributes)
  { b with draft, stack := id :: b.stack }

def insertNamed (b : Builder) (name : String) : Builder := b.insert ⟨name, []⟩

def insertText (b : Builder) (text : String) : Builder :=
  if text.isEmpty || b.stack.isEmpty then b
  else { b with draft := b.draft.appendText b.current text }

def insertCommentAt (b : Builder) (parent : Nat) (text : String) : Builder :=
  { b with draft := (b.draft.append parent (.comment text)).2 }

def insertComment (b : Builder) (text : String) : Builder := b.insertCommentAt b.current text

def insertTextElement (b : Builder) (tag : Tag) (model : ContentModel) : Builder :=
  { b.insert tag with model, returnMode := b.mode, mode := .inText }

def addAttributesTo (b : Builder) (id : Nat) (tag : Tag) : Builder :=
  { b with draft := b.draft.addAttributes id tag.attributes }

/-- A further `html` tag only adds attributes to the first one. -/
def mergeHtml (b : Builder) (tag : Tag) : Builder :=
  if b.hasTemplate then b
  else
    match b.stack.getLast? with
    | some id => b.addAttributesTo id tag
    | none => b

/-! ### Closing -/

def pop (b : Builder) : Builder := { b with stack := b.stack.drop 1 }

def popThrough (b : Builder) (names : List String) : Builder :=
  { b with stack := (b.stack.dropWhile fun id => !names.contains (b.name id)).drop 1 }

def popTo (b : Builder) (names : List String) : Builder :=
  { b with stack := b.stack.dropWhile fun id => !names.contains (b.name id) }

def removeOpen (b : Builder) (id : Nat) : Builder := { b with stack := b.stack.filter (· != id) }

/-- Whether an element that `wanted` accepts is open inside every element of `bounds`. -/
def inScope (b : Builder) (bounds : List String) (wanted : Nat → Bool) : Bool :=
  match b.stack.find? fun id => wanted id || bounds.contains (b.name id) with
  | some id => wanted id
  | none => false

def namedInScope (b : Builder) (bounds names : List String) : Bool :=
  b.inScope bounds fun id => names.contains (b.name id)

def closeImplied (b : Builder) (spared : String) : Builder :=
  { b with
    stack := b.stack.dropWhile fun id =>
      impliedEnds.contains (b.name id) && b.name id != spared }

def closeImpliedAndTableParts (b : Builder) : Builder :=
  { b with
    stack := b.stack.dropWhile fun id => (impliedEnds ++ impliedTableEnds).contains (b.name id) }

def closeParagraph (b : Builder) : Builder :=
  if b.namedInScope buttonScopeBounds ["p"] then (b.closeImplied "p").popThrough ["p"] else b

/-! ### Formatting -/

def addMarker (b : Builder) : Builder := { b with formatting := .marker :: b.formatting }

def clearFormatting (b : Builder) : Builder :=
  let isElement : Formatting → Bool
    | .marker => false
    | .element _ _ => true
  { b with formatting := (b.formatting.dropWhile isElement).drop 1 }

def isFormatting (id : Nat) : Formatting → Bool
  | .marker => false
  | .element id' _ => id == id'

def removeFormatting (b : Builder) (id : Nat) : Builder :=
  { b with formatting := b.formatting.filter (!isFormatting id ·) }

/-- The newest formatting element of a name, not looking past a marker. -/
def newestFormatting? (name : String) : List Formatting → Option Nat
  | [] => none
  | .marker :: _ => none
  | .element id tag :: rest => if tag.name = name then some id else newestFormatting? name rest

def sameTag (s t : Tag) : Bool :=
  s.name == t.name && s.attributes.length == t.attributes.length &&
    s.attributes.all t.attributes.contains

/-- Of more than three equal elements since the newest marker the oldest is forgotten. -/
def limitFormatting (tag : Tag) : Nat → List Formatting → List Formatting
  | _, [] => []
  | _, .marker :: rest => .marker :: rest
  | seen, .element id tag' :: rest =>
      if sameTag tag tag' then
        if seen = 2 then rest else .element id tag' :: limitFormatting tag (seen + 1) rest
      else .element id tag' :: limitFormatting tag seen rest

def insertFormatting (b : Builder) (tag : Tag) : Builder :=
  let b := b.insert tag
  { b with formatting := .element b.current tag :: limitFormatting tag 0 b.formatting }

/-- Opens again the formatting in force that is not open, oldest first. -/
def reconstruct (b : Builder) : Builder :=
  let isClosed : Formatting → Bool
    | .marker => false
    | .element id _ => !b.stack.contains id
  let closed := b.formatting.takeWhile isClosed
  let kept := b.formatting.dropWhile isClosed
  closed.reverse.foldl (fun b entry =>
    match entry with
    | .marker => b
    | .element _ tag =>
        let b := b.insert tag
        { b with formatting := .element b.current tag :: b.formatting })
    { b with formatting := kept }

/-! ### Modes -/

def fittingMode (b : Builder) : Mode := go b.stack
where
  selectMode : List Nat → Mode
    | [] => .inSelect
    | id :: rest =>
        if b.name id = "template" then .inSelect
        else if b.name id = "table" then .inSelectInTable
        else selectMode rest
  go : List Nat → Mode
    | [] => .inBody
    | id :: rest =>
        match b.name id with
        | "select" => selectMode rest
        | "td" | "th" => if rest.isEmpty then .inBody else .inCell
        | "tr" => .inRow
        | "tbody" | "thead" | "tfoot" => .inTableBody
        | "caption" => .inCaption
        | "colgroup" => .inColumnGroup
        | "table" => .inTable
        | "template" => b.templateModes.headD .inBody
        | "head" => if rest.isEmpty then .inBody else .inHead
        | "body" => .inBody
        | "frameset" => .inFrameset
        | "html" => if b.head.isSome then .afterHead else .beforeHead
        | _ => go rest

def resetMode (b : Builder) : Builder := b.enter b.fittingMode

def closeTemplate (b : Builder) : Builder :=
  { (b.popThrough ["template"]).clearFormatting with
    templateModes := b.templateModes.drop 1 }.resetMode

end Builder

end FlatStyle.Markup
