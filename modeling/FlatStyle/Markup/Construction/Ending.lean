import FlatStyle.Markup.Construction.Body

namespace FlatStyle.Markup.Builder

def afterBody (b : Builder) (token : Token) : Outcome :=
  match token with
  | .blanks _ => b.inBody token
  | .comment text => .done (b.insertCommentAt (b.stack.getLastD 0) text)
  | .doctype .. => .done b
  | .startTag tag =>
      if tag.name = "html" then .done (b.mergeHtml tag) else .again (b.enter .inBody)
  | .endTag name =>
      if name = "html" then .done (b.enter .afterAfterBody) else .again (b.enter .inBody)
  | .finish => .done b
  | _ => .again (b.enter .inBody)

def afterAfterBody (b : Builder) (token : Token) : Outcome :=
  match token with
  | .comment text => .done (b.insertCommentAt 0 text)
  | .doctype .. => .done b
  | .blanks _ => b.inBody token
  | .startTag tag =>
      if tag.name = "html" then .done (b.mergeHtml tag) else .again (b.enter .inBody)
  | .finish => .done b
  | _ => .again (b.enter .inBody)

def inFrameset (b : Builder) : Token → Outcome
  | .blanks text => .done (b.insertText text)
  | .comment text => .done (b.insertComment text)
  | .startTag tag =>
      match tag.name with
      | "html" => .done (b.mergeHtml tag)
      | "frameset" => .done (b.insert tag)
      | "frame" => .done (b.insertVoid tag)
      | "noframes" => .done (b.insertMetadata tag)
      | _ => .done b
  | .endTag name =>
      if name = "frameset" && b.currentName != "html" then
        let b := b.pop
        .done (if b.currentName = "frameset" then b else b.enter .afterFrameset)
      else .done b
  | _ => .done b

def afterFrameset (b : Builder) : Token → Outcome
  | .blanks text => .done (b.insertText text)
  | .comment text => .done (b.insertComment text)
  | .startTag tag =>
      match tag.name with
      | "html" => .done (b.mergeHtml tag)
      | "noframes" => .done (b.insertMetadata tag)
      | _ => .done b
  | .endTag name => .done (if name = "html" then b.enter .afterAfterFrameset else b)
  | _ => .done b

def afterAfterFrameset (b : Builder) (token : Token) : Outcome :=
  match token with
  | .comment text => .done (b.insertCommentAt 0 text)
  | .blanks _ => b.inBody token
  | .startTag tag =>
      match tag.name with
      | "html" => .done (b.mergeHtml tag)
      | "noframes" => .done (b.insertMetadata tag)
      | _ => .done b
  | _ => .done b

end FlatStyle.Markup.Builder
