import FlatStyle.Markup.Construction.Builder

namespace FlatStyle.Markup.Builder

def initial (b : Builder) : Token → Outcome
  | .blanks _ => .done b
  | .comment text => .done (b.insertCommentAt 0 text)
  | .doctype name publicId systemId malformed =>
      .done { b with
        draft := (b.draft.append 0 .doctype).2
        lenient := asksForLeniency name publicId systemId malformed
        mode := .beforeHtml }
  | _ => .again { b with lenient := true, mode := .beforeHtml }

/-- End tags that stand for the start of what is missing. -/
def startsContent (name : String) : Bool := ["head", "body", "html", "br"].contains name

def beforeHtml (b : Builder) : Token → Outcome
  | .doctype .. => .done b
  | .comment text => .done (b.insertCommentAt 0 text)
  | .blanks _ => .done b
  | .startTag tag =>
      if tag.name = "html" then .done ((b.insert tag).enter .beforeHead)
      else .again ((b.insertNamed "html").enter .beforeHead)
  | .endTag name =>
      if startsContent name then .again ((b.insertNamed "html").enter .beforeHead) else .done b
  | _ => .again ((b.insertNamed "html").enter .beforeHead)

def openHead (b : Builder) (tag : Tag) : Builder :=
  let b := b.insert tag
  { b with head := some b.current, mode := .inHead }

def beforeHead (b : Builder) : Token → Outcome
  | .blanks _ => .done b
  | .comment text => .done (b.insertComment text)
  | .doctype .. => .done b
  | .startTag tag =>
      match tag.name with
      | "html" => .done (b.mergeHtml tag)
      | "head" => .done (b.openHead tag)
      | _ => .again (b.openHead ⟨"head", []⟩)
  | .endTag name => if startsContent name then .again (b.openHead ⟨"head", []⟩) else .done b
  | _ => .again (b.openHead ⟨"head", []⟩)

def insertMetadata (b : Builder) (tag : Tag) : Builder :=
  match tag.name with
  | "title" => b.insertTextElement tag (.referencesOnly "title")
  | "noframes" => b.insertTextElement tag (.plain "noframes")
  | "style" => b.insertTextElement tag (.plain "style")
  | "script" => b.insertTextElement tag .script
  | "template" =>
      let b := (b.insert tag).addMarker
      { b with
        framesetAllowed := false
        mode := .inTemplate
        templateModes := .inTemplate :: b.templateModes }
  | _ => b.insertVoid tag

def endTemplate (b : Builder) : Builder :=
  if b.hasTemplate then b.closeImpliedAndTableParts.closeTemplate else b

def inHead (b : Builder) : Token → Outcome
  | .blanks text => .done (b.insertText text)
  | .comment text => .done (b.insertComment text)
  | .doctype .. => .done b
  | .startTag tag =>
      if tag.name = "html" then .done (b.mergeHtml tag)
      else if tag.name = "noscript" then .done ((b.insert tag).enter .inHeadNoscript)
      else if metadataNames.contains tag.name then .done (b.insertMetadata tag)
      else if tag.name = "head" then .done b
      else .again (b.pop.enter .afterHead)
  | .endTag name =>
      match name with
      | "head" => .done (b.pop.enter .afterHead)
      | "body" | "html" | "br" => .again (b.pop.enter .afterHead)
      | "template" => .done b.endTemplate
      | _ => .done b
  | _ => .again (b.pop.enter .afterHead)

def inHeadNoscript (b : Builder) : Token → Outcome
  | .doctype .. => .done b
  | .blanks text => .done (b.insertText text)
  | .comment text => .done (b.insertComment text)
  | .startTag tag =>
      if tag.name = "html" then .done (b.mergeHtml tag)
      else if ["basefont", "bgsound", "link", "meta", "noframes", "style"].contains tag.name then
        .done (b.insertMetadata tag)
      else if tag.name = "head" || tag.name = "noscript" then .done b
      else .again (b.pop.enter .inHead)
  | .endTag name =>
      match name with
      | "noscript" => .done (b.pop.enter .inHead)
      | "br" => .again (b.pop.enter .inHead)
      | _ => .done b
  | _ => .again (b.pop.enter .inHead)

def insertIntoHead (b : Builder) (tag : Tag) : Builder :=
  match b.head with
  | none => b.insertMetadata tag
  | some head => ({ b with stack := head :: b.stack }.insertMetadata tag).removeOpen head

def openBody (b : Builder) : Builder := (b.insertNamed "body").enter .inBody

def afterHead (b : Builder) : Token → Outcome
  | .blanks text => .done (b.insertText text)
  | .comment text => .done (b.insertComment text)
  | .doctype .. => .done b
  | .startTag tag =>
      if tag.name = "html" then .done (b.mergeHtml tag)
      else if tag.name = "body" then
        .done { b.insert tag with framesetAllowed := false, mode := .inBody }
      else if tag.name = "frameset" then .done ((b.insert tag).enter .inFrameset)
      else if metadataNames.contains tag.name then .done (b.insertIntoHead tag)
      else if tag.name = "head" then .done b
      else .again b.openBody
  | .endTag name =>
      match name with
      | "body" | "html" | "br" => .again b.openBody
      | "template" => .done b.endTemplate
      | _ => .done b
  | _ => .again b.openBody

end FlatStyle.Markup.Builder
