import FlatStyle.Directory
import FlatStyle.Markup.Source
import FlatStyle.Report.Terminal

namespace FlatStyle.CommandLine

structure Options where
  file : Option String
  html : Option String
  json : Bool
  rules : Bool
  all : Bool
  quiet : Bool

def Options.none : Options := ⟨.none, .none, false, false, false, false⟩

inductive UsageError where
  | unknownFlag (text : String)
  | repeatedFlag (name : String)
  | unexpectedValue (name : String)
  | missingValue (name : String)
  | emptyFileName
  | secondFile (name : String)
  | fileAndHtml

def UsageError.message : UsageError → String
  | .unknownFlag text => "error: unexpected argument '" ++ text ++ "'"
  | .repeatedFlag name => "error: '" ++ name ++ "' cannot be used more than once"
  | .unexpectedValue name => "error: '" ++ name ++ "' takes no value"
  | .missingValue name => "error: '" ++ name ++ "' needs a value"
  | .emptyFileName => "error: the file name is empty"
  | .secondFile name => "error: unexpected argument '" ++ name ++ "'"
  | .fileAndHtml => "error: '--html' cannot be used with a file"

inductive Input where
  | file (name : String)
  | html (text : String)

inductive Request where
  | version
  | help
  | page (input : Input) (options : Options)
  | nothing

inductive Flag where
  | json
  | rules
  | all
  | quiet
  | version
  | help

def Flag.ofLong? : String → Option Flag
  | "json" => some .json
  | "rules" => some .rules
  | "all" => some .all
  | "quiet" => some .quiet
  | "version" => some .version
  | "help" => some .help
  | _ => none

def Flag.ofShort? : Char → Option Flag
  | 'q' => some .quiet
  | 'V' => some .version
  | 'h' => some .help
  | _ => none

abbrev Progress := Sum Request Options

def setFlag (o : Options) : Flag → Except UsageError Progress
  | .json => if o.json then .error (.repeatedFlag "--json") else .ok (.inr { o with json := true })
  | .rules =>
      if o.rules then .error (.repeatedFlag "--rules") else .ok (.inr { o with rules := true })
  | .all => if o.all then .error (.repeatedFlag "--all") else .ok (.inr { o with all := true })
  | .quiet =>
      if o.quiet then .error (.repeatedFlag "--quiet") else .ok (.inr { o with quiet := true })
  | .version => .ok (.inl .version)
  | .help => .ok (.inl .help)

def setShortFlags (o : Options) : List Char → Except UsageError Progress
  | [] => .ok (.inr o)
  | c :: cs =>
      match Flag.ofShort? c with
      | none => .error (.unknownFlag (String.ofList ['-', c]))
      | some flag => do
          match ← setFlag o flag with
          | .inl request => pure (.inl request)
          | .inr o => setShortFlags o cs

def setHtml (o : Options) (text : String) : Except UsageError Options :=
  if o.html.isSome then .error (.repeatedFlag "--html") else .ok { o with html := some text }

def setFile (o : Options) (name : String) : Except UsageError Options :=
  if o.file.isSome then .error (.secondFile name)
  else if name.isEmpty then .error .emptyFileName
  else .ok { o with file := some name }

def setFiles (o : Options) : List String → Except UsageError Options
  | [] => .ok o
  | name :: names => do setFiles (← setFile o name) names

def looksLikeFlag (arg : String) : Bool :=
  match arg.toList with
  | '-' :: _ :: _ => true
  | _ => false

/-- Reads arguments from left to right; the first fault ends it. After `--` all are file names. -/
def readArgs (o : Options) : List String → Except UsageError Progress
  | [] => .ok (.inr o)
  | arg :: args =>
      match arg.toList with
      | ['-', '-'] => (setFiles o args).map .inr
      | '-' :: '-' :: long =>
          let name := String.ofList (long.takeWhile (· != '='))
          let value := long.dropWhile (· != '=')
          if name = "html" then
            match value with
            | _ :: text => do readArgs (← setHtml o (String.ofList text)) args
            | [] =>
                match args with
                | [] => .error (.missingValue "--html")
                | text :: rest =>
                    if looksLikeFlag text then .error (.missingValue "--html")
                    else do readArgs (← setHtml o text) rest
          else
            match Flag.ofLong? name with
            | none => .error (.unknownFlag arg)
            | some flag =>
                if value.isEmpty then do
                  match ← setFlag o flag with
                  | .inl request => pure (.inl request)
                  | .inr o => readArgs o args
                else .error (.unexpectedValue ("--" ++ name))
      | '-' :: c :: cs => do
          match ← setShortFlags o (c :: cs) with
          | .inl request => pure (.inl request)
          | .inr o => readArgs o args
      | _ => do readArgs (← setFile o arg) args

def requestOf (o : Options) : Except UsageError Request :=
  match o.html, o.file with
  | some _, some _ => .error .fileAndHtml
  | some text, none => .ok (.page (.html text) o)
  | none, some name => .ok (.page (.file name) o)
  | none, none => .ok .nothing

def parse (args : List String) : Except UsageError Request := do
  match ← readArgs .none args with
  | .inl request => pure request
  | .inr o => requestOf o

structure Response where
  code : UInt32
  output : String
  errors : String

def unlines (lines : List String) : String := String.join (lines.map (· ++ "\n"))

/-- The report on a page, of which the parsed trees are given. -/
def respondPage (render : JsonValue → String) (o : Options) (sources : List Source) : Response :=
  match (Document.ofSources sources).report o.all (!o.quiet) with
  | .error e => ⟨1, "", "Error: " ++ e.message ++ "\n"⟩
  | .ok report =>
      let output := if o.json then render (report.json o.rules) ++ "\n"
        else unlines (report.lines o.rules)
      ⟨0, output, unlines report.echoed⟩

def respondReadError (name : String) (e : ReadError) : Response :=
  ⟨1, "", "Error: failed to read '" ++ name ++ "'\n\nCaused by:\n    " ++ e.message ++ "\n"⟩

def usage : String := "Usage: wren [OPTIONS] [FILE]\n"

/-- What a program brings along to answer command lines. -/
structure Environment (m : Type → Type) where
  parse : String → List Source
  render : JsonValue → String
  read : String → m (Except ReadError String)

def respond [Monad m] (env : Environment m) (args : List String) : m Response :=
  match parse args with
  | .error e => pure ⟨2, "", e.message ++ "\n\n" ++ usage⟩
  | .ok .version => pure ⟨0, "wren 0.1.0\n", ""⟩
  | .ok .help => pure ⟨0, usage, ""⟩
  | .ok .nothing =>
      pure ⟨1, "", "Error: expected an HTML file or --html '<html>...</html>'\n"⟩
  | .ok (.page (.html text) o) => pure (respondPage env.render o (env.parse text))
  | .ok (.page (.file name) o) => do
      match ← env.read name with
      | .ok text => pure (respondPage env.render o (env.parse text))
      | .error e => pure (respondReadError name e)

end FlatStyle.CommandLine
