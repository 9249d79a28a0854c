import FlatStyle.Markup.Construction.Body

namespace FlatStyle.Markup.Builder

def tableBodies : List String := ["tbody", "tfoot", "thead"]

def cells : List String := ["td", "th"]

def tableParts : List String :=
  ["caption", "col", "colgroup", "tbody", "td", "tfoot", "th", "thead", "tr"]

def popToTable (b : Builder) : Builder := b.popTo tableScopeBounds

def popToTableBody (b : Builder) : Builder := b.popTo ("html" :: "template" :: tableBodies)

def popToRow (b : Builder) : Builder := b.popTo ["html", "template", "tr"]

def inTableScope (b : Builder) (names : List String) : Bool :=
  b.namedInScope tableScopeBounds names

def holdsTableText (b : Builder) : Bool :=
  ["table", "tbody", "template", "tfoot", "thead", "tr"].contains b.currentName

def closeTable (b : Builder) : Builder := (b.popThrough ["table"]).resetMode

def inTable (b : Builder) (token : Token) : Outcome :=
  let text : Outcome :=
    if b.holdsTableText then
      .again { b with tableText := [], returnMode := b.mode, mode := .inTableText }
    else b.inBody token
  match token with
  | .nul => text
  | .blanks _ => text
  | .text _ => text
  | .comment text => .done (b.insertComment text)
  | .doctype .. => .done b
  | .startTag tag =>
      match tag.name with
      | "caption" => .done ((b.popToTable.addMarker.insert tag).enter .inCaption)
      | "colgroup" => .done ((b.popToTable.insert tag).enter .inColumnGroup)
      | "col" => .again ((b.popToTable.insertNamed "colgroup").enter .inColumnGroup)
      | "tbody" | "tfoot" | "thead" => .done ((b.popToTable.insert tag).enter .inTableBody)
      | "td" | "th" | "tr" => .again ((b.popToTable.insertNamed "tbody").enter .inTableBody)
      | "table" => if b.inTableScope ["table"] then .again b.closeTable else .done b
      | "style" | "script" | "template" => .done (b.insertMetadata tag)
      | "input" => if isHiddenInput tag then .done (b.insertVoid tag) else b.inBody token
      | "form" =>
          if b.hasTemplate || b.form.isSome then .done b
          else
            let b := b.insert tag
            .done { b.pop with form := some b.current }
      | _ => b.inBody token
  | .endTag name =>
      match name with
      | "table" => if b.inTableScope ["table"] then .done b.closeTable else .done b
      | "body" | "caption" | "col" | "colgroup" | "html" | "tbody" | "td" | "tfoot" | "th"
      | "thead" | "tr" => .done b
      | "template" => .done b.endTemplate
      | _ => b.inBody token
  | .finish => b.inBody token

/-- The text that waited is inserted, by the rules of the body unless it is blank. -/
def flushTableText (b : Builder) : Builder :=
  let texts := b.tableText.reverse
  let b := { b with tableText := [], mode := b.returnMode }
  if texts.all (·.2) then texts.foldl (fun b t => b.insertText t.1) b
  else
    texts.foldl (fun b t =>
      let b := b.reconstruct.insertText t.1
      if t.2 then b else b.forbidFrameset) b

def inTableText (b : Builder) : Token → Outcome
  | .nul => .done b
  | .blanks text => .done { b with tableText := (text, true) :: b.tableText }
  | .text text => .done { b with tableText := (text, false) :: b.tableText }
  | _ => .again b.flushTableText

def closeCaption (b : Builder) : Builder :=
  (((b.closeImplied "").popThrough ["caption"]).clearFormatting).enter .inTable

def inCaption (b : Builder) (token : Token) : Outcome :=
  let hasCaption := b.inTableScope ["caption"]
  match token with
  | .startTag tag =>
      if tableParts.contains tag.name then
        if hasCaption then .again b.closeCaption else .done b
      else b.inBody token
  | .endTag name =>
      match name with
      | "caption" => if hasCaption then .done b.closeCaption else .done b
      | "table" => if hasCaption then .again b.closeCaption else .done b
      | "body" | "col" | "colgroup" | "html" | "tbody" | "td" | "tfoot" | "th" | "thead" | "tr" =>
          .done b
      | _ => b.inBody token
  | _ => b.inBody token

def inColumnGroup (b : Builder) (token : Token) : Outcome :=
  let leave : Outcome :=
    if b.currentName = "colgroup" then .again (b.pop.enter .inTable) else .done b
  match token with
  | .blanks text => .done (b.insertText text)
  | .comment text => .done (b.insertComment text)
  | .doctype .. => .done b
  | .startTag tag =>
      match tag.name with
      | "html" => .done (b.mergeHtml tag)
      | "col" => .done (b.insertVoid tag)
      | "template" => .done (b.insertMetadata tag)
      | _ => leave
  | .endTag name =>
      match name with
      | "colgroup" =>
          if b.currentName = "colgroup" then .done (b.pop.enter .inTable) else .done b
      | "col" => .done b
      | "template" => .done b.endTemplate
      | _ => leave
  | .finish => b.inBody token
  | _ => leave

def inTableBody (b : Builder) (token : Token) : Outcome :=
  let leave : Outcome :=
    if b.inTableScope tableBodies then .again (b.popToTableBody.pop.enter .inTable) else .done b
  match token with
  | .startTag tag =>
      match tag.name with
      | "tr" => .done ((b.popToTableBody.insert tag).enter .inRow)
      | "td" | "th" => .again ((b.popToTableBody.insertNamed "tr").enter .inRow)
      | "caption" | "col" | "colgroup" | "tbody" | "tfoot" | "thead" => leave
      | _ => b.inTable token
  | .endTag name =>
      match name with
      | "tbody" | "tfoot" | "thead" =>
          if b.inTableScope [name] then .done (b.popToTableBody.pop.enter .inTable) else .done b
      | "table" => leave
      | "body" | "caption" | "col" | "colgroup" | "html" | "td" | "th" | "tr" => .done b
      | _ => b.inTable token
  | _ => b.inTable token

def inRow (b : Builder) (token : Token) : Outcome :=
  let closed := b.popToRow.pop.enter .inTableBody
  let leave : Outcome := if b.inTableScope ["tr"] then .again closed else .done b
  match token with
  | .startTag tag =>
      match tag.name with
      | "td" | "th" => .done ((b.popToRow.insert tag).addMarker.enter .inCell)
      | "caption" | "col" | "colgroup" | "tbody" | "tfoot" | "thead" | "tr" => leave
      | _ => b.inTable token
  | .endTag name =>
      match name with
      | "tr" => if b.inTableScope ["tr"] then .done closed else .done b
      | "table" => leave
      | "tbody" | "tfoot" | "thead" => if b.inTableScope [name] then leave else .done b
      | "body" | "caption" | "col" | "colgroup" | "html" | "td" | "th" => .done b
      | _ => b.inTable token
  | _ => b.inTable token

def closeCell (b : Builder) (names : List String) : Builder :=
  (((b.closeImplied "").popThrough names).clearFormatting).enter .inRow

def inCell (b : Builder) (token : Token) : Outcome :=
  match token with
  | .startTag tag =>
      if tableParts.contains tag.name then
        if b.inTableScope cells then .again (b.closeCell cells) else .done b
      else b.inBody token
  | .endTag name =>
      match name with
      | "td" | "th" => if b.inTableScope [name] then .done (b.closeCell [name]) else .done b
      | "body" | "caption" | "col" | "colgroup" | "html" => .done b
      | "table" | "tbody" | "tfoot" | "thead" | "tr" =>
          if b.inTableScope [name] then .again (b.closeCell cells) else .done b
      | _ => b.inBody token
  | _ => b.inBody token

end FlatStyle.Markup.Builder
