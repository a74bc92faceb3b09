import LintReport.Code
import LintReport.Report.Policy

namespace LintReport

inductive OutputFormat
  | text
  | json
deriving DecidableEq, Repr

namespace OutputFormat

def options : List (String × OutputFormat) :=
  [("text", text), ("json", json)]

def name : OutputFormat → String
  | text => "text"
  | json => "json"

end OutputFormat

structure Config where
  failOn : FailPolicy := .severe
  format : OutputFormat := .text
  -- The codes whose diagnostics are only counted.
  ignore : List Code := []
  color  : Bool := true
deriving DecidableEq, Repr

namespace Config

def ignores (c : Config) (code : Code) : Bool :=
  decide (code ∈ c.ignore)

structure Settings where
  failOn : Option FailPolicy := none
  format : Option OutputFormat := none
  ignore : Option (List Code) := none
  color  : Option Bool := none
deriving DecidableEq, Repr

def ofSettings (s : Settings) : Config :=
  let default : Config := {}
  { failOn := s.failOn.getD default.failOn
    format := s.format.getD default.format
    ignore := s.ignore.getD default.ignore
    color  := s.color.getD default.color }

end Config

end LintReport
