import TextTemplate.CommandLine.Invocation
import TextTemplate.CommandLine.Table
import TextTemplate.Diagnostic
import TextTemplate.Json.Reader
import TextTemplate.Json.Writer
import TextTemplate.Render.Nodes
import TextTemplate.Value.Serial

/-!
# Running a command

A command looks at files by a probe and gives what the program leaves behind: its exit
code, its output, and notices for the error stream. Everything is decided here; what
remains to be done outside is to answer the probe and to print.
-/

namespace TextTemplate.CommandLine

/-- Something to tell on the error stream. -/
inductive Notice where
  /-- A text, as it stands. -/
  | text (contents : String)
  /-- A diagnostic of a template file. -/
  | report (file : String) (diagnostic : Diagnostic)
  /-- A reason why the program cannot go on. -/
  | failure (reason : String)
  /-- A line of the log. -/
  | log (line : String)
  /-- A hint how the program is used. -/
  | usage (reason : String)
  deriving DecidableEq, Repr

/-- What the program leaves behind. -/
structure Outcome where
  exit : Nat
  output : String
  notices : List Notice
  deriving DecidableEq, Repr

/-! ## Exit codes -/

def exitSuccess : Nat := 0
def exitUsage : Nat := 2
def exitBadData : Nat := 65
def exitNoInput : Nat := 66
def exitInternal : Nat := 70
def exitUnreadable : Nat := 74
def exitNotPermitted : Nat := 77

/-- The exit code of a template that could not be rendered. -/
def exitOf : Error → Nat
  | .notFound _ _ => exitNoInput
  | .outsideBase _ _ => exitNotPermitted
  | .unreadable _ _ => exitUnreadable
  | _ => exitBadData

/-! ## Rendering -/

/-- The value that a text on the command line stands for. -/
def readSetting (text : String) : Value :=
  match Text.readInt64 text with
  | some number => .int number
  | none =>
    match Decimal.readFloat text with
    | some number => .float number
    | none =>
      if text = "true" then .bool true
      else if text = "false" then .bool false
      else .string text

/-- The data that the text of a file holds: a JSON object. -/
def readData (file : Path) (text : String) : Except String (Mapping Value) :=
  match Json.read text with
  | none => .error ("Failed to parse context file " ++ file.text)
  | some document =>
    match (Value.ofJson document).asMapping? with
    | some data => .ok data
    | none => .error ("Context file " ++ file.text ++ " must contain a JSON object")

variable {σ : Type}

/-- The data to render with. -/
def loadData (probe : Probe σ) (file : Option Path) :
    StateM σ (Except String (Mapping Value)) := do
  match file with
  | none => return .ok Mapping.empty
  | some file =>
    match (← probe file).readText with
    | .ok text => return readData file text
    | .error failure =>
      return .error ("Cannot read context file " ++ file.text ++ ": " ++
        failure.message)

/-- Binds the variables of the command line over the data. -/
def bindSettings (data : Mapping Value) (settings : List (String × String)) :
    Mapping Value :=
  settings.foldl (fun bound entry => bound.insert entry.1 (readSetting entry.2)) data

/-- A computation on a new shelf. -/
def onNewShelf {α : Type} (session : Session σ α) :
    StateM σ (Except Error α) := fun state =>
  match session ⟨Mapping.empty, state⟩ with
  | .ok result shelf => (.ok result, shelf.source)
  | .error error shelf => (.error error, shelf.source)

/-- The diagnostic of the template itself, when it is the template that does not
parse. -/
def diagnose (env : Environment σ) (loader : Loader σ) (name : String) (error : Error) :
    StateM σ (Option Diagnostic) := do
  match error with
  | .notFound _ _ => return none
  | .outsideBase _ _ => return none
  | .unreadable _ _ => return none
  | _ =>
    match ← onNewShelf (Session.ofSource (loader.load name)) with
    | .error _ => return none
    | .ok source =>
      match env.parse source with
      | .ok _ => return none
      | .error fault => return some (Diagnostic.ofError source fault)

/-- A JSON document as a block of lines. -/
def documentText (document : Json) : String :=
  document.pretty ++ "\n"

/-- What is told about a template that could not be rendered. -/
def failureNotice (env : Environment σ) (loader : Loader σ) (request : RenderRequest)
    (error : Error) :
    StateM σ Notice := do
  if request.json then
    return .text (documentText (.object [("error", .string error.message)]))
  else
    match ← diagnose env loader request.template error with
    | some diagnostic => return .report request.template diagnostic
    | none => return .text ("Render error: " ++ error.message ++ "\n")

/-- The output of a rendered template. -/
def renderedText (request : RenderRequest) (text : String) : String :=
  if request.json then
    documentText (.object [("name", .string request.template),
      ("output", .string text)])
  else text

/-- Renders a template. -/
def runRender (probe : Probe σ) (clock : Moment) (request : RenderRequest) :
    StateM σ Outcome := do
  match ← loadData probe request.context with
  | .error reason => return ⟨exitInternal, "", [.failure reason]⟩
  | .ok data =>
    let loader := Loader.directories probe request.bases
    let env : Environment σ := { loader := some loader, clock }
    let log := Notice.log ("rendering " ++ request.template)
    match ← onNewShelf (env.renderNamed request.template
      (bindSettings data request.settings)) with
    | .ok text => return ⟨exitSuccess, renderedText request text, [log]⟩
    | .error error =>
      return ⟨exitOf error, "", [log, ← failureNotice env loader request error]⟩

/-! ## Checking -/

/-- The outcome of a check: the number of nodes, or what is wrong. -/
structure Checked where
  file : String
  result : Except String Nat
  notices : List Notice

/-- Checks the text of a file. -/
def checkText (env : Environment σ) (file text : String) : Checked :=
  match env.parse text with
  | .ok nodes => ⟨file, .ok nodes.length, [.log ("parsed " ++ file)]⟩
  | .error error =>
    ⟨file, .error error.message, [.report file (Diagnostic.ofError text error)]⟩

/-- Checks a file. -/
def checkFile (probe : Probe σ) (env : Environment σ) (file : Path) :
    StateM σ Checked := do
  match (← probe file).readText with
  | .ok text => return checkText env file.text text
  | .error failure =>
    return ⟨file.text, .error ("cannot read file: " ++ failure.message), []⟩

namespace Checked

/-- Whether the file parses. -/
def isOk (checked : Checked) : Bool :=
  match checked.result with
  | .ok _ => true
  | .error _ => false

/-- The row of a table. -/
def row (checked : Checked) : List String :=
  match checked.result with
  | .ok nodes => [checked.file, "ok", toString nodes ++ " nodes"]
  | .error message => [checked.file, "error", message]

/-- The JSON form. -/
def toJson (checked : Checked) : Json :=
  match checked.result with
  | .ok nodes =>
    .object [("file", .string checked.file), ("ok", .bool true),
      ("nodes", .integer nodes)]
  | .error message =>
    .object [("file", .string checked.file), ("ok", .bool false),
      ("error", .string message)]

end Checked

/-- The output of a check. -/
def checkedText (json : Bool) (checks : List Checked) : String :=
  if json then documentText (.array (checks.map Checked.toJson))
  else (Table.print ⟨["File", "Status", "Details"], checks.map Checked.row⟩) ++ "\n"

/-- Whether a notice is a diagnostic. -/
def Notice.isReport : Notice → Bool
  | report _ _ => true
  | _ => false

/-- Checks files. -/
def runCheck (probe : Probe σ) (clock : Moment) (request : CheckRequest) :
    StateM σ Outcome := do
  let env : Environment σ := { clock }
  let checks ← request.files.mapM (checkFile probe env)
  let notices := checks.flatMap Checked.notices
  let exit := if checks.all Checked.isOk then exitSuccess else exitBadData
  let told := if request.json then notices.filter (!·.isReport) else notices
  return ⟨exit, checkedText request.json checks, told⟩

/-! ## Listing -/

/-- Rows of two columns; the shorter one is filled up with empty cells. -/
def pairUp (left right : List String) : List (List String) :=
  (List.range (max left.length right.length)).map fun index =>
    [left.getD index "", right.getD index ""]

/-- Lists the standard tags and filters. -/
def runTags (json : Bool) : Outcome :=
  let tags := Extension.standard.tags.keys
  let filters := Extension.standard.filters.keys
  let output :=
    if json then
      documentText
        (.object [("tags", .array (tags.map Json.string)),
          ("filters", .array (filters.map Json.string))])
    else Table.print ⟨["Tags", "Filters"], pairUp tags filters⟩ ++ "\n"
  ⟨exitSuccess, output, []⟩

/-! ## The program -/

/-- Runs a command. -/
def runCommand (probe : Probe σ) (clock : Moment) : Command → StateM σ Outcome
  | .render request => runRender probe clock request
  | .check request => runCheck probe clock request
  | .tags json => return runTags json

/-- Whether a notice is a line of the log. -/
def Notice.isLog : Notice → Bool
  | log _ => true
  | _ => false

/-- Drops the log, unless it is asked for. -/
def Outcome.withLog (verbose : Bool) (outcome : Outcome) : Outcome :=
  if verbose then outcome
  else { outcome with notices := outcome.notices.filter (!·.isLog) }

/-- How the program is used. -/
def usageText : String :=
  "Usage: malline [--color <auto|always|never>] [-v] <command>\n\n" ++
    "Commands:\n" ++
    "  render <NAME> [-p <DIR>]... [-c <FILE>] [--var <NAME=VALUE>]... [--json]\n" ++
    "  check <FILE>... [--json]\n" ++
    "  tags [--json]\n"

/-- The label of a diagnostic in words. -/
def spanText (span : SourceSpan) : String :=
  "  at byte " ++ toString span.offset ++ ", " ++ toString span.length ++ " bytes\n"

/-- A notice as the error stream shows it. -/
def Notice.print : Notice → String
  | text contents => contents
  | report file diagnostic =>
    "Error: " ++ file ++ ": " ++ diagnostic.message ++ "\n" ++
      (diagnostic.span.map spanText).getD "" ++
      (diagnostic.help.map fun help => "  help: " ++ help ++ "\n").getD ""
  | failure reason => "Error: " ++ reason ++ "\n"
  | log line => "DEBUG " ++ line ++ "\n"
  | usage reason => "error: " ++ reason ++ "\n\n" ++ usageText

/-- The name and version of the program. -/
def versionText : String :=
  "malline 0.1.0\n"

/-- What the program leaves behind when the arguments say no command to run. -/
def stopped : Stop → Outcome
  | .misuse reason => ⟨exitUsage, "", [.usage reason]⟩
  | .ending option =>
    ⟨exitSuccess, if option = "version" then versionText else usageText, []⟩

/-- Runs the program with arguments. -/
def run (probe : Probe σ) (clock : Moment) (arguments : List String) :
    StateM σ Outcome := do
  match readInvocation arguments with
  | .error stop => return stopped stop
  | .ok invocation =>
    return (← runCommand probe clock invocation.command).withLog invocation.verbose

end TextTemplate.CommandLine
