import FlatStyle.SortedMap

namespace FlatStyle

structure Warning where
  component : String
  message : String
  deriving DecidableEq

namespace Warning

def text (w : Warning) : String := "[" ++ w.component ++ "] " ++ w.message

def echo (w : Warning) : String :=
  "\x1b[33m[Wren " ++ w.component ++ "] warning: " ++ w.message ++ "\x1b[39m"

end Warning

/-- The texts recorded since the log was last emptied, and the lines shown, oldest first. -/
structure WarningLog where
  recorded : SortedMap String Unit
  echoing : Bool
  echoed : List String

namespace WarningLog

def start (echoing : Bool) : WarningLog := ⟨∅, echoing, []⟩

def record (log : WarningLog) (w : Warning) : WarningLog :=
  { log with
    recorded := log.recorded.insert w.text ()
    echoed :=
      if log.echoing && !log.recorded.contains w.text then log.echoed ++ [w.echo]
      else log.echoed }

def recordAll (log : WarningLog) (ws : List Warning) : WarningLog := ws.foldl record log

def texts (log : WarningLog) : List String := log.recorded.keys

def clear (log : WarningLog) : WarningLog := { log with recorded := ∅ }

def take (log : WarningLog) : List String × WarningLog := (log.texts, log.clear)

end WarningLog

end FlatStyle
