import LintReport.Config

namespace LintReport.Command

inductive Level
  | program
  | report
  | codes
  | help
deriving DecidableEq, Repr

inductive Flag
  | config
  | verbose
  | format
  | output
  | failOn
  | help
  | version
deriving DecidableEq, Repr

namespace Flag

def long : Flag → String
  | config  => "config"
  | verbose => "verbose"
  | format  => "format"
  | output  => "output"
  | failOn  => "fail-on"
  | help    => "help"
  | version => "version"

def short? : Flag → Option Char
  | config  => some 'c'
  | verbose => some 'v'
  | format  => some 'f'
  | output  => some 'o'
  | failOn  => none
  | help    => some 'h'
  | version => some 'V'

def takesValue : Flag → Bool
  | config | format | output | failOn => true
  | verbose | help | version          => false

end Flag

namespace Level

def flags : Level → List Flag
  | program => [.config, .verbose, .help, .version]
  | report  => [.config, .format, .output, .verbose, .failOn, .help]
  | codes   => [.config, .verbose, .help]
  | help    => []

def maxOperands : Level → Nat
  | program => 0
  | report  => 1
  | codes   => 1
  | help    => 0

def allows : Level → (operand : String) → Bool
  | report, a => a != ""
  | _,      _ => true

end Level

inductive Stop
  | help (level : Level)
  | version
  | misuse
deriving DecidableEq, Repr

structure Given where
  config   : Option String := none
  verbose  : Bool := false
  format   : Option OutputFormat := none
  output   : Option String := none
  failOn   : Option FailPolicy := none
  operands : List String := []
deriving DecidableEq, Repr

def path? (v : String) : Option String :=
  if v = "" then none else some v

def once {α : Type} : (old new : Option α) → Except Stop (Option α)
  | none, some x => .ok (some x)
  | _,    _      => .error .misuse

namespace Given

def set (g : Given) (v : String) : Flag → Except Stop Given
  | .config => do return { g with config := ← once g.config (path? v) }
  | .format => do return { g with format := ← once g.format (OutputFormat.options.lookup v) }
  | .output => do return { g with output := ← once g.output (path? v) }
  | .failOn => do return { g with failOn := ← once g.failOn (FailPolicy.options.lookup v) }
  | _       => .error .misuse

def switch (g : Given) (level : Level) : Flag → Except Stop Given
  | .verbose => if g.verbose then .error .misuse else .ok { g with verbose := true }
  | .help    => .error (.help level)
  | .version => .error .version
  | _        => .error .misuse

end Given

structure Reading where
  given   : Given := {}
  awaited : Option Flag := none
  -- An option with its value, which is not looked at before the next option is met.
  pending : Option (Flag × String) := none
  -- Whether all further arguments are operands.
  closed  : Bool := false
deriving DecidableEq, Repr

namespace Reading

-- Looks at what was read before the next option or operand.
def settle (r : Reading) (level : Level) : Except Stop Given :=
  if r.given.operands.all level.allows then
    match r.pending with
    | none        => .ok r.given
    | some (f, v) => r.given.set v f
  else
    .error .misuse

def operand (r : Reading) (level : Level) (a : String) : Except Stop Reading := do
  let g ← r.settle level
  if g.operands.length < level.maxOperands then
    return { given := { g with operands := g.operands ++ [a] }, closed := r.closed }
  else
    throw .misuse

def long (r : Reading) (level : Level) (text : List Char) : Except Stop Reading := do
  let g ← r.settle level
  match level.flags.find? (fun f => f.long.toList == text.takeWhile (· != '=')) with
  | none   => throw .misuse
  | some f =>
    match f.takesValue, text.dropWhile (· != '=') with
    | true,  _ :: v => return { given := ← g.set (String.ofList v) f }
    | true,  []     => return { given := g, awaited := some f }
    | false, []     => return { given := ← g.switch level f }
    | false, _ :: _ => throw .misuse

-- Options by their letters. What stands behind the letter of an option with a value is that value.
def letters (level : Level) : Given → List Char → Except Stop Reading
  | g, []      => .ok { given := g }
  | g, c :: cs =>
    match level.flags.find? (·.short? = some c) with
    | none   => .error .misuse
    | some f =>
      if f.takesValue then
        if cs.isEmpty then
          .ok { given := g, awaited := some f }
        else
          (g.set (String.ofList (attached cs)) f).map fun g => { given := g }
      else do
        letters level (← g.switch level f) cs
where
  attached : List Char → List Char
    | '=' :: v => v
    | v        => v

def isOption (a : String) : Bool :=
  a.toList.head? == some '-' && a != "-"

def step (level : Level) (r : Reading) (a : String) : Except Stop Reading :=
  if r.closed then
    r.operand level a
  else
    match r.awaited with
    | some f =>
      if isOption a then .error .misuse else .ok { r with awaited := none, pending := some (f, a) }
    | none   =>
      match a.toList with
      | ['-', '-']         => .ok { r with closed := true }
      | '-' :: '-' :: text => r.long level text
      | '-' :: c :: cs     => do letters level (← r.settle level) (c :: cs)
      | _                  => r.operand level a

def finish (r : Reading) (level : Level) : Except Stop Given :=
  if r.awaited.isSome then .error .misuse else r.settle level

end Reading

def given (level : Level) (args : List String) : Except Stop Given := do
  (← args.foldlM (Reading.step level) {}).finish level

inductive Task
  | report (input : String) (format : Option OutputFormat) (output : Option String)
      (failOn : Option FailPolicy)
  | codes (code : Option String)
deriving DecidableEq, Repr

def defaultConfig : String := "snakecheck.toml"

structure Invocation where
  config : Option String
  task   : Task
deriving DecidableEq, Repr

def helpFor : List String → Stop
  | []         => .help .program
  | ["report"] => .help .report
  | ["codes"]  => .help .codes
  | ["help"]   => .help .help
  | _          => .misuse

-- A command with its arguments. An option of the program that is also given to the command has the
-- value that the command is given.
def command (r : Reading) (name : String) (args : List String) : Except Stop Invocation := do
  match name with
  | "report" =>
    let sub ← given .report args
    match sub.operands with
    | [input] =>
      let g ← r.finish .program
      return ⟨sub.config <|> g.config, .report input sub.format sub.output sub.failOn⟩
    | _       => throw .misuse
  | "codes"  =>
    let sub ← given .codes args
    let g ← r.finish .program
    return ⟨sub.config <|> g.config, .codes sub.operands.head?⟩
  | "help"   => throw (helpFor args)
  | _        => throw .misuse

def program (r : Reading) : List String → Except Stop Invocation
  | []        => .error .misuse
  | a :: args =>
    if r.closed || r.awaited.isSome || Reading.isOption a then do
      program (← r.step .program a) args
    else
      command r a args

def parse (args : List String) : Except Stop Invocation :=
  program {} args

end LintReport.Command
