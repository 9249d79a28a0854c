import FlatStyle.Markup.Construction.Head

namespace FlatStyle.Markup.Builder

def finishTemplate (b : Builder) : Outcome :=
  if b.hasTemplate then .again b.closeTemplate else .done b

/-- Closes an open list item or description before a new one, unless a block is open in between. -/
def closeItem (b : Builder) (names : List String) : Builder :=
  go b.stack
where
  go : List Nat → Builder
    | [] => b
    | id :: rest =>
        let name := b.name id
        if names.contains name then (b.closeImplied name).popThrough [name]
        else if specialNames.contains name && !(["address", "div", "p"].contains name) then b
        else go rest

def closeOrdinary (b : Builder) (name : String) : Builder :=
  go b.stack
where
  go : List Nat → Builder
    | [] => b
    | id :: rest =>
        if b.name id = name then
          let b := b.closeImplied name
          { b with stack := (b.stack.dropWhile (· != id)).drop 1 }
        else if specialNames.contains (b.name id) then b
        else go rest

def closeFormatting (b : Builder) (name : String) : Builder :=
  if b.currentName = name && !b.formatting.any (isFormatting b.current) then b.pop
  else
    match newestFormatting? name b.formatting with
    | none => b.closeOrdinary name
    | some id =>
        if !b.stack.contains id then b.removeFormatting id
        else if !b.inScope scopeBounds (· == id) then b
        else
          { b.removeFormatting id with stack := (b.stack.dropWhile (· != id)).drop 1 }

def closeInScope (b : Builder) (bounds : List String) (spared : String) (names : List String) :
    Builder :=
  if b.namedInScope bounds names then (b.closeImplied spared).popThrough names else b

def forbidFrameset (b : Builder) : Builder := { b with framesetAllowed := false }

/-- A frameset takes the place of a body that holds nothing yet. -/
def replaceBody (b : Builder) (tag : Tag) : Builder :=
  match b.stack.reverse with
  | html :: body :: _ =>
      if b.name body = "body" && b.framesetAllowed then
        ({ b with draft := b.draft.detach body, stack := [html] }.insert tag).enter .inFrameset
      else b
  | _ => b

def isHiddenInput (tag : Tag) : Bool :=
  (tag.attributes.lookup "type").any fun s => lowerText s == "hidden".toList

def closeTemplateForm (b : Builder) : Builder := b.closeInScope scopeBounds "" ["form"]

def closeForm (b : Builder) : Builder :=
  if b.hasTemplate then b.closeTemplateForm
  else
    match b.form with
    | none => b
    | some form =>
        let b := { b with form := none }
        if b.inScope scopeBounds (· == form) then (b.closeImplied "").removeOpen form else b

def bodyStart (b : Builder) (tag : Tag) : Builder :=
  match tag.name with
  | "html" => b.mergeHtml tag
  | "body" =>
      match b.stack.reverse with
      | _ :: body :: _ =>
          if b.name body = "body" && !b.hasTemplate then
            b.forbidFrameset.addAttributesTo body tag
          else b
      | _ => b
  | "frameset" => b.replaceBody tag
  | "pre" | "listing" =>
      { b.closeParagraph.insert tag with skipLineFeed := true, framesetAllowed := false }
  | "form" =>
      if b.form.isSome && !b.hasTemplate then b
      else
        let b := b.closeParagraph.insert tag
        if b.hasTemplate then b else { b with form := some b.current }
  | "li" => ((b.forbidFrameset.closeItem ["li"]).closeParagraph).insert tag
  | "dd" | "dt" => ((b.forbidFrameset.closeItem ["dd", "dt"]).closeParagraph).insert tag
  | "plaintext" => { b.closeParagraph.insert tag with model := .plainToEnd }
  | "button" =>
      ((b.closeInScope scopeBounds "" ["button"]).reconstruct.insert tag).forbidFrameset
  | "a" =>
      let b := match newestFormatting? "a" b.formatting with
        | none => b
        | some id => ((b.closeFormatting "a").removeFormatting id).removeOpen id
      b.reconstruct.insertFormatting tag
  | "nobr" =>
      let b := b.reconstruct
      let b := if b.namedInScope scopeBounds ["nobr"] then (b.closeFormatting "nobr").reconstruct
        else b
      b.insertFormatting tag
  | "applet" | "marquee" | "object" => (b.reconstruct.insert tag).addMarker.forbidFrameset
  | "table" =>
      let b := if b.lenient then b else b.closeParagraph
      (b.insert tag).forbidFrameset.enter .inTable
  | "area" | "br" | "embed" | "img" | "keygen" | "wbr" =>
      (b.reconstruct.insertVoid tag).forbidFrameset
  | "image" => (b.reconstruct.insertVoid { tag with name := "img" }).forbidFrameset
  | "input" =>
      let b := b.reconstruct.insertVoid tag
      if isHiddenInput tag then b else b.forbidFrameset
  | "param" | "source" | "track" => b.insertVoid tag
  | "hr" => (b.closeParagraph.insertVoid tag).forbidFrameset
  | "textarea" =>
      { b.insertTextElement tag (.referencesOnly "textarea") with
        skipLineFeed := true
        framesetAllowed := false }
  | "xmp" => b.closeParagraph.reconstruct.forbidFrameset.insertTextElement tag (.plain "xmp")
  | "iframe" => b.forbidFrameset.insertTextElement tag (.plain "iframe")
  | "noembed" => b.insertTextElement tag (.plain "noembed")
  | "select" =>
      let inTable := [Mode.inTable, .inCaption, .inTableBody, .inRow, .inCell].contains b.mode
      (b.reconstruct.insert tag).forbidFrameset.enter
        (if inTable then .inSelectInTable else .inSelect)
  | "optgroup" | "option" =>
      let b := if b.currentName = "option" then b.pop else b
      b.reconstruct.insert tag
  | "rb" | "rtc" =>
      let b := if b.namedInScope scopeBounds ["ruby"] then b.closeImplied "" else b
      b.insert tag
  | "rp" | "rt" =>
      let b := if b.namedInScope scopeBounds ["ruby"] then b.closeImplied "rtc" else b
      b.insert tag
  | "caption" | "col" | "colgroup" | "frame" | "head" | "tbody" | "td" | "tfoot" | "th" | "thead"
  | "tr" => b
  | name =>
      if blocks.contains name then b.closeParagraph.insert tag
      else if headings.contains name then
        let b := b.closeParagraph
        let b := if headings.contains b.currentName then b.pop else b
        b.insert tag
      else if formattingNames.contains name then b.reconstruct.insertFormatting tag
      else b.reconstruct.insert tag

def bodyEnd (b : Builder) (name : String) : Builder :=
  match name with
  | "form" => b.closeForm
  | "p" =>
      if b.namedInScope buttonScopeBounds ["p"] then b.closeParagraph
      else (b.insertNamed "p").closeParagraph
  | "li" => b.closeInScope listScopeBounds "li" ["li"]
  | "dd" => b.closeInScope scopeBounds "dd" ["dd"]
  | "dt" => b.closeInScope scopeBounds "dt" ["dt"]
  | "a" | "nobr" => b.closeFormatting name
  | "applet" | "marquee" | "object" =>
      if b.namedInScope scopeBounds [name] then
        ((b.closeImplied "").popThrough [name]).clearFormatting
      else b
  | "br" => (b.reconstruct.insertVoid ⟨"br", []⟩).forbidFrameset
  | _ =>
      if closedBlocks.contains name then b.closeInScope scopeBounds "" [name]
      else if headings.contains name then b.closeInScope scopeBounds "" headings
      else if formattingNames.contains name then b.closeFormatting name
      else b.closeOrdinary name

def inBody (b : Builder) : Token → Outcome
  | .nul => .done b
  | .blanks text => .done (b.reconstruct.insertText text)
  | .text text => .done (b.reconstruct.insertText text).forbidFrameset
  | .comment text => .done (b.insertComment text)
  | .doctype .. => .done b
  | .startTag tag =>
      if metadataNames.contains tag.name then .done (b.insertMetadata tag)
      else .done (b.bodyStart tag)
  | .endTag name =>
      match name with
      | "template" => .done b.endTemplate
      | "body" =>
          if b.namedInScope scopeBounds ["body"] then .done (b.enter .afterBody) else .done b
      | "html" =>
          if b.namedInScope scopeBounds ["body"] then .again (b.enter .afterBody) else .done b
      | _ => .done (b.bodyEnd name)
  | .finish => if b.templateModes.isEmpty then .done b else b.finishTemplate

def inText (b : Builder) : Token → Outcome
  | .blanks text => .done (b.insertText text)
  | .text text => .done (b.insertText text)
  | .endTag _ => .done { b.pop with mode := b.returnMode, model := .markup }
  | .finish => .again { b.pop with mode := b.returnMode, model := .markup }
  | _ => .done b

def inTemplate (b : Builder) (token : Token) : Outcome :=
  let retry (mode : Mode) : Outcome :=
    .again { b with mode, templateModes := mode :: b.templateModes.drop 1 }
  match token with
  | .startTag tag =>
      match tag.name with
      | "caption" | "colgroup" | "tbody" | "tfoot" | "thead" => retry .inTable
      | "col" => retry .inColumnGroup
      | "tr" => retry .inTableBody
      | "td" | "th" => retry .inRow
      | name =>
          if metadataNames.contains name then .done (b.insertMetadata tag) else retry .inBody
  | .endTag name => if name = "template" then .done b.endTemplate else .done b
  | .finish => b.finishTemplate
  | _ => b.inBody token

end FlatStyle.Markup.Builder
