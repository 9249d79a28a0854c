import FlatStyle.Resolution

namespace FlatStyle

structure Session where
  index : StyleIndex
  log : WarningLog

namespace Session

def start (echoing : Bool) : Session := ⟨∅, .start echoing⟩

def reset (s : Session) : Session := { s with index := ∅ }

def readText (s : Session) (css : String) : Session :=
  let sheet := Sheet.ofText css.toList
  ⟨.ofSheet sheet, s.log.recordAll sheet.warnings⟩

/-- Adds the rules of a style text whose comments are not looked for. -/
def addText (s : Session) (css : String) : Session :=
  let sheet := Sheet.ofBare css.toList
  ⟨s.index.addSheet sheet, s.log.recordAll sheet.warnings⟩

def register (s : Session) (selectors declaration : String) : Session :=
  { s with index := s.index.register selectors declaration }

/-- Replaces the rules by those of a document, whose warnings alone are kept. -/
def readDocument (s : Session) (d : Document) : Session :=
  let sheet := d.sheet
  ⟨.ofSheet sheet, s.log.clear.recordAll sheet.warnings⟩

/-- The styles of a document by its own rules. The rules of the session stay, the warnings of the
document alone are kept. -/
def computeStyles (s : Session) (d : Document) :
    Except ResolveError (SortedMap NodeId PropertyMap) × Session :=
  let own := s.readDocument d
  (d.styles own.index, { s with log := own.log })

def warn (s : Session) (w : Warning) : Session := { s with log := s.log.record w }

def clearWarnings (s : Session) : Session := { s with log := s.log.clear }

def takeWarnings (s : Session) : List String × Session :=
  let (texts, log) := s.log.take
  (texts, { s with log })

end Session

end FlatStyle
