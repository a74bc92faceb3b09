import LintReport.Command.Help
import LintReport.Config.Load
import LintReport.Report.Json

namespace LintReport.Command

structure Surroundings where
  -- Whether something can be found at a path. What is there may still be no file, or one that cannot be
  -- read.
  present      : String → Bool
  read         : String → Except FileError ByteArray
  -- Opens a file for writing, which makes it or empties it.
  opens        : String → Except FileError Unit
  -- Writes a text to an open file. If not all of it goes in, this tells how many bytes did.
  writes       : String → String → Except (Nat × FileError) Unit
  -- Whether reading a file means reading the standard input.
  leadsToInput : String → Bool
  input        : ByteArray
  colors       : Bool
  timestamp    : String

namespace Surroundings

variable (w : Surroundings) (path : String)

def content : Except FileError ByteArray :=
  if w.leadsToInput path then .ok w.input else w.read path

-- What a command finds after it has read a file. The standard input can be read only once.
def after : Surroundings :=
  if w.leadsToInput path then { w with input := .empty } else w

def configured : Option String → Surroundings
  | some path => w.after path
  | none      => if w.present defaultConfig then w.after defaultConfig else w

end Surroundings

-- What a command leaves behind. At most one file is opened for writing, and what went into it may be
-- only the start of what should.
structure Outcome where
  status  : UInt32
  output  : String := ""
  errors  : String := ""
  written : Option (String × ByteArray) := none

structure Failure where
  text    : String
  cause   : Option String := none
  written : Option (String × ByteArray) := none

namespace Failure

def indented (s : List Char) : List Char :=
  ' ' :: ' ' :: ' ' :: ' ' :: s.flatMap fun c => if c = '\n' then ['\n', ' ', ' ', ' ', ' '] else [c]

def report (f : Failure) : String :=
  match f.cause with
  | none   => "Error: " ++ f.text ++ "\n"
  | some c =>
    "Error: " ++ f.text ++ "\n\nCaused by:\n" ++ String.ofList (indented c.toList) ++ "\n"

def outcome (f : Failure) : Outcome :=
  { status := 1, errors := f.report, written := f.written }

end Failure

def loadConfig (w : Surroundings) : Option String → Except Failure Config
  | some path =>
    (Config.load (w.content path)).mapError fun e =>
      { text := "failed to load config " ++ path, cause := some e.message }
  | none      =>
    if w.present defaultConfig then
      (Config.load (w.content defaultConfig)).mapError fun e => { text := e.message }
    else
      .ok {}

-- A path that is nothing but a hyphen, apart from slashes and dots behind it, names the standard
-- input.
def isInput (path : String) : Bool :=
  match path.splitOn "/" with
  | name :: rest => name == "-" && rest.all fun n => n == "" || n == "."
  | []           => false

def readPaths (i : Invocation) : List String :=
  i.config.getD defaultConfig :: match i.task with
    | .report input .. => if isInput input then [] else [input]
    | .codes _         => []

def readsInput (i : Invocation) : Bool :=
  match i.task with
  | .report input .. => isInput input
  | .codes _         => false

def readInput (w : Surroundings) (path : String) : Except Failure String :=
  if isInput path then
    (decodeText w.input).mapError fun e => { text := e.message }
  else
    ((w.content path).bind decodeText).mapError fun e =>
      { text := "failed to read " ++ path, cause := some e.message }

def readDiagnostics (w : Surroundings) (path : String) : Except Failure (List Diagnostic) := do
  let text ← readInput w path
  (Json.decode Diagnostic.listReader text).mapError fun e =>
    { text := path ++ " is not a JSON array of diagnostics", cause := some e.message }

def save (w : Surroundings) (path text : String) (failure : FileError → Failure) :
    Except Failure Outcome := do
  (w.opens path).mapError failure
  (w.writes path text).mapError fun (n, e) =>
    { failure e with written := some (path, text.toUTF8.extract 0 n) }
  return { status := 0, written := some (path, text.toUTF8) }

def deliver (w : Surroundings) (colored : Bool) (r : Report) :
    OutputFormat → Option String → Except Failure Outcome
  | .text, none      => .ok { status := 0, output := r.page colored }
  | .json, none      => .ok { status := 0, output := r.stored ++ "\n" }
  | .text, some path => save w path r.plain fun e => { text := e.message }
  | .json, some path =>
    save w path r.stored fun e => { text := "IO error: " ++ e.message, cause := some e.message }

def runReport (w : Surroundings) (config : Config) (input : String) (format : Option OutputFormat)
    (output : Option String) (failOn : Option FailPolicy) : Except Failure Outcome := do
  let ds ← readDiagnostics w input
  let r := Report.ofDiagnostics w.timestamp config.ignore ds
  let o ← deliver w (w.colors && config.color) r (format.getD config.format) output
  return if r.fails (failOn.getD config.failOn) then { o with status := 1 } else o

def runCodes (w : Surroundings) (config : Config) (code : Option String) : Except Failure Outcome := do
  let codes ← match code with
    | none   => pure Code.catalog
    | some s =>
      match Code.ofSpelling s with
      | .ok c    => pure [c]
      | .error e => throw { text := e.message }
  let colored := w.colors && config.color
  return { status := 0, output := String.join (codes.map (·.page colored)) }

def runTask (w : Surroundings) (config : Config) : Task → Except Failure Outcome
  | .report input format output failOn => runReport w config input format output failOn
  | .codes code                        => runCodes w config code

def perform (w : Surroundings) (i : Invocation) : Except Failure Outcome := do
  let config ← loadConfig w i.config
  runTask (w.configured i.config) config i.task

-- What is printed in place of a run. It is colored whatever a configuration says, for none is read.
def Stop.outcome (colored : Bool) : Stop → Outcome
  | help level => { status := 0, output := unlines (level.helpPage colored) }
  | version    => { status := 0, output := unlines [Command.version] }
  | misuse     =>
    { status := 2, errors := unlines ["error: invalid arguments", "", Level.program.usage colored] }

def run (w : Surroundings) (args : List String) : Outcome :=
  match parse args with
  | .error stop => stop.outcome w.colors
  | .ok i       =>
    match perform w i with
    | .ok o    => o
    | .error f => f.outcome

end LintReport.Command
