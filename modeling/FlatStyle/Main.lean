import FlatStyle.CommandLine
import FlatStyle.Markup.Page

namespace FlatStyle

/-- What an error of the system means. Some numbers come with their sign turned. -/
def readError (e : IO.Error) : ReadError :=
  let number (code : UInt32) := min code (0 - code)
  match e with
  | .noFileOrDirectory .. => .missing
  | .inappropriateType _ code _ => if number code = 20 then .notDirectory else .directory
  | .invalidArgument _ code _ =>
      if number code = 36 then .nameTooLong else .other (toString e)
  | e => .other (toString e)

def readPage (name : String) : IO (Except ReadError String) := do
  try
    pure (decodeFile (← IO.FS.readBinFile name))
  catch e =>
    pure (.error (readError e))

def environment : CommandLine.Environment IO := ⟨Markup.sources, JsonValue.render 0, readPage⟩

end FlatStyle

def main (args : List String) : IO UInt32 := do
  let response ← FlatStyle.CommandLine.respond FlatStyle.environment args
  (← IO.getStderr).putStr response.errors
  (← IO.getStdout).putStr response.output
  pure response.code
