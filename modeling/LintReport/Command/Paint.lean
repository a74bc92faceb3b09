import LintReport.Report.Basic

namespace LintReport

inductive Paint
  | bold
  | boldUnderlined
  | boldRed
  | boldYellow
  | yellow
  | green
deriving DecidableEq, Repr

namespace Paint

-- A color and its weight come in one escape sequence, an underline in one of its own.
def sequences : Paint → List String
  | bold           => ["1"]
  | boldUnderlined => ["1", "4"]
  | boldRed        => ["1;31"]
  | boldYellow     => ["1;33"]
  | yellow         => ["33"]
  | green          => ["32"]

def escape (sequence : String) : String :=
  "\x1b[" ++ sequence ++ "m"

def on (p : Paint) (colored : Bool) (s : String) : String :=
  if colored then String.join (p.sequences.map escape) ++ s ++ escape "0" else s

end Paint

def Severity.paint : Severity → Paint
  | warning => .boldYellow
  | error   => .boldRed

def stripSuffix? (suffix s : List Char) : Option (List Char) :=
  if suffix.isSuffixOf s then some (s.take (s.length - suffix.length)) else none

def Entry.painted (colored : Bool) (e : Entry) : String :=
  let tag := "[" ++ e.severity.tag ++ "]"
  match stripSuffix? (tag ++ " " ++ e.message).toList e.rendered.toList with
  | some start => String.ofList start ++ e.severity.paint.on colored tag ++ " " ++ e.message
  | none       => e.rendered

def unlines (ls : List String) : String :=
  String.join (ls.map (· ++ "\n"))

def Summary.page (colored : Bool) (s : Summary) : List String :=
  [ "",
    Paint.bold.on colored "Summary",
    "  Files:    " ++ toString s.files,
    "  Errors:   " ++ Paint.boldRed.on colored (toString s.errors),
    "  Warnings: " ++ Paint.yellow.on colored (toString s.warnings),
    "  Severe:   " ++ toString s.severe ] ++
  if 0 < s.ignored then ["  Ignored:  " ++ toString s.ignored] else []

def Report.page (colored : Bool) (r : Report) : String :=
  unlines <| r.entries.map (·.painted colored) ++
    if r.summary.total = 0 then
      [Paint.green.on colored "✓ No problems found"]
    else
      r.summary.page colored

-- The rendered lines alone. The line end behind the last one is also there when there is none.
def Report.plain (r : Report) : String :=
  "\n".intercalate r.lines ++ "\n"

def Code.page (colored : Bool) (c : Code) : String :=
  let t := c.traits
  unlines <|
    (Paint.bold.on colored c.name ++ " [" ++ t.severity.paint.on colored t.severity.tag ++ "] score=" ++
      toString t.score ++ " column=" ++ t.columns.kept) ::
    c.templates.map fun t => "    " ++ Text.Escaped.ascii t

end LintReport
