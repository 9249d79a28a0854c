import FlatStyle.Markup.Construction.Table

namespace FlatStyle.Markup.Builder

/-- Every element but an option or a group of options shuts off what is open around it. -/
def selectInScope (b : Builder) : Bool :=
  match b.stack.find? fun id => !(["optgroup", "option"].contains (b.name id)) with
  | some id => b.name id == "select"
  | none => false

def closeSelect (b : Builder) : Builder := (b.popThrough ["select"]).resetMode

def popIfCurrent (b : Builder) (name : String) : Builder :=
  if b.currentName = name then b.pop else b

def inSelect (b : Builder) (token : Token) : Outcome :=
  match token with
  | .nul => .done b
  | .blanks text => .done (b.insertText text)
  | .text text => .done (b.insertText text)
  | .comment text => .done (b.insertComment text)
  | .doctype .. => .done b
  | .startTag tag =>
      let closedGroups := (b.popIfCurrent "option").popIfCurrent "optgroup"
      match tag.name with
      | "html" => .done (b.mergeHtml tag)
      | "option" => .done ((b.popIfCurrent "option").insert tag)
      | "optgroup" => .done (closedGroups.insert tag)
      | "hr" => .done (closedGroups.insertVoid tag)
      | "select" => if b.selectInScope then .done b.closeSelect else .done b
      | "input" | "keygen" | "textarea" =>
          if b.selectInScope then .again b.closeSelect else .done b
      | "script" | "template" => .done (b.insertMetadata tag)
      | _ => .done b
  | .endTag name =>
      match name with
      | "optgroup" =>
          let b := match b.stack with
            | id :: next :: _ =>
                if b.name id = "option" && b.name next = "optgroup" then b.pop else b
            | _ => b
          .done (b.popIfCurrent "optgroup")
      | "option" => .done (b.popIfCurrent "option")
      | "select" => if b.selectInScope then .done b.closeSelect else .done b
      | "template" => .done b.endTemplate
      | _ => .done b
  | .finish => b.inBody token

def inSelectInTable (b : Builder) (token : Token) : Outcome :=
  let endsSelection (name : String) : Bool :=
    ["caption", "table", "tbody", "tfoot", "thead", "tr", "td", "th"].contains name
  match token with
  | .startTag tag => if endsSelection tag.name then .again b.closeSelect else b.inSelect token
  | .endTag name =>
      if endsSelection name then
        if b.inTableScope [name] then .again b.closeSelect else .done b
      else b.inSelect token
  | _ => b.inSelect token

end FlatStyle.Markup.Builder
