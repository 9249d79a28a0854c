import FlatStyle.Markup.Construction.Ending
import FlatStyle.Markup.Construction.Selection
import FlatStyle.Markup.Feed

/-!
Reading HTML pages. Tokens are cut from the text one by one, since the rules decide how the text
after each of them is cut.

Three parts of the parsing rules are left out: `svg` and `math` elements have no content of their
own kind, what may not stand in a table stays in it, and formatting that is closed in the wrong
order is only cut off. Nothing is proved of pages; what is proved of documents holds whatever trees
they are made of.
-/

namespace FlatStyle.Markup

namespace Builder

def treat (b : Builder) (token : Token) : Outcome :=
  match b.mode with
  | .initial => b.initial token
  | .beforeHtml => b.beforeHtml token
  | .beforeHead => b.beforeHead token
  | .inHead => b.inHead token
  | .inHeadNoscript => b.inHeadNoscript token
  | .afterHead => b.afterHead token
  | .inBody => b.inBody token
  | .inText => b.inText token
  | .inTable => b.inTable token
  | .inTableText => b.inTableText token
  | .inCaption => b.inCaption token
  | .inColumnGroup => b.inColumnGroup token
  | .inTableBody => b.inTableBody token
  | .inRow => b.inRow token
  | .inCell => b.inCell token
  | .inSelect => b.inSelect token
  | .inSelectInTable => b.inSelectInTable token
  | .inTemplate => b.inTemplate token
  | .afterBody => b.afterBody token
  | .inFrameset => b.inFrameset token
  | .afterFrameset => b.afterFrameset token
  | .afterAfterBody => b.afterAfterBody token
  | .afterAfterFrameset => b.afterAfterFrameset token

def settle : Nat → Builder → Token → Builder
  | 0, b, _ => b
  | n + 1, b, token =>
      match b.treat token with
      | .done b => b
      | .again b => settle n b token

def dropLineFeed? : Token → Option Token
  | .blanks text => (dropFrom text).map .blanks
  | .text text => (dropFrom text).map .text
  | token => some token
where
  dropFrom (text : String) : Option String :=
    match text.toList with
    | ['\n'] => none
    | '\n' :: t => some (String.ofList t)
    | _ => some text

/-- Each time a token is treated again, an element is closed or a mode nearer to its own is
reached. -/
def take (b : Builder) (token : Token) : Builder :=
  let bound := 4 * (b.stack.length + b.templateModes.length) + 32
  settle bound { b with skipLineFeed := false } token

/-- A line feed that is to be dropped is kept where something faulty came before it. -/
def takeCut (b : Builder) (cut : Cut) : Builder :=
  if b.skipLineFeed && !cut.faulty then
    match dropLineFeed? cut.token with
    | some token => b.take token
    | none => { b with skipLineFeed := false }
  else b.take cut.token

def endsScript (b : Builder) : Token → Bool
  | .endTag name => b.mode == .inText && name == "script"
  | _ => false

end Builder

def buildFrom (feed : Feed) : Nat → Builder → List Char → Builder
  | 0, b, _ => b
  | n + 1, b, s =>
      let cut := nextToken b.model s
      match cut.token with
      | .finish => b.takeCut cut
      | token =>
          buildFrom feed n (b.takeCut cut)
            (if b.endsScript token then feed.resume cut.rest else cut.rest)

/-- The trees of a page. Every token takes at least one character. -/
def sources (text : String) : List Source :=
  let feed := Feed.ofText text.toList
  (buildFrom feed (feed.text.length + 1) .start feed.text).draft.sources

end FlatStyle.Markup
