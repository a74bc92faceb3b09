import LintReport.Command.Arguments
import LintReport.Command.Paint

namespace LintReport.Command

inductive Piece
  | literal (text : String)
  | plain (text : String)
deriving DecidableEq, Repr

namespace Piece

def text : Piece → String
  | literal s => s
  | plain s   => s

def painted (colored : Bool) : Piece → String
  | literal s => Paint.bold.on colored s
  | plain s   => s

end Piece

structure Row where
  subject     : List Piece
  explanation : String
deriving DecidableEq, Repr

namespace Row

def width (r : Row) : Nat :=
  (String.join (r.subject.map (·.text))).length

def line (colored : Bool) (width : Nat) (r : Row) : String :=
  "  " ++ String.join (r.subject.map (·.painted colored)) ++ "".pushn ' ' (width - r.width) ++ "  " ++
    r.explanation

end Row

structure Listing where
  heading : String
  rows    : List Row
deriving DecidableEq, Repr

def Listing.page (colored : Bool) (l : Listing) : List String :=
  Paint.boldUnderlined.on colored (l.heading ++ ":") ::
    l.rows.map (·.line colored ((l.rows.map Row.width).foldl max 0))

namespace Flag

def valueName (f : Flag) : String :=
  "<" ++ f.long.map (fun c => if c = '-' then '_' else c.toUpper) ++ ">"

def subject (f : Flag) : List Piece :=
  (match f.short? with
    | some c => [.literal ("-" ++ c.toString), .plain ", "]
    | none   => [.plain "    "]) ++
  .literal ("--" ++ f.long) :: if f.takesValue then [.plain (" " ++ f.valueName)] else []

def oneOf (names : List String) : String :=
  " [possible values: " ++ ", ".intercalate names ++ "]"

def explanation : Flag → String
  | config  => "Path to config file (default: " ++ defaultConfig ++ ")"
  | verbose => "Enable verbose output"
  | format  => "Output format (overrides config)" ++ oneOf (OutputFormat.options.map (·.1))
  | output  => "Write the report here instead of stdout"
  | failOn  => "When to exit non-zero (overrides config)" ++ oneOf (FailPolicy.options.map (·.1))
  | help    => "Print help"
  | version => "Print version"

end Flag

namespace Level

def name : Level → String
  | program => "snakecheck"
  | report  => "report"
  | codes   => "codes"
  | help    => "help"

def about : Level → String
  | program => "snakecheck - report diagnostics produced by the Python analysis engine"
  | report  => "Render a JSON array of diagnostics emitted by the engine"
  | codes   => "List diagnostic codes with their severity and templates"
  | help    => "Print this message or the help of the given subcommand(s)"

def call : Level → String
  | program => program.name
  | level   => program.name ++ " " ++ level.name

def operands : Level → String
  | program => "<COMMAND>"
  | report  => "<INPUT>"
  | codes   => "[CODE]"
  | help    => "[COMMAND]..."

def usage (level : Level) (colored : Bool) : String :=
  Paint.boldUnderlined.on colored "Usage:" ++ " " ++ Paint.bold.on colored level.call ++
    (if level.flags.isEmpty then " " else " [OPTIONS] ") ++ level.operands

def operandListing : Level → Listing
  | program => ⟨"Commands", [report, codes, help].map fun l => ⟨[.literal l.name], l.about⟩⟩
  | report  => ⟨"Arguments", [⟨[.plain report.operands], "Engine output file, or `-` for stdin"⟩]⟩
  | codes   => ⟨"Arguments", [⟨[.plain codes.operands], "Show a single code"⟩]⟩
  | help    => ⟨"Arguments", [⟨[.plain help.operands], "Print help for the subcommand(s)"⟩]⟩

def optionListing (level : Level) : Listing :=
  ⟨"Options", level.flags.map fun f => ⟨f.subject, f.explanation⟩⟩

def listings (level : Level) : List Listing :=
  [level.operandListing, level.optionListing].filter (!·.rows.isEmpty)

def helpPage (level : Level) (colored : Bool) : List String :=
  [level.about, "", level.usage colored] ++ level.listings.flatMap fun l => "" :: l.page colored

end Level

def version : String := Level.program.name ++ " 0.1.0"

end LintReport.Command
