import LintReport.Mismatch
import LintReport.Toml.Document

namespace LintReport.Toml

-- Floating point numbers in errors are always positional.
def floatStyle : Decimal.Style where
  positional _ := true
  tie          := .up

inductive Error
  | invalid (e : Invalid)
  | mismatch (m : Mismatch)
  -- Neither a name nor a table with a name as its only key, where a name out of several belongs.
  | noName
  -- A table with a name as its only key has something else than an empty table behind it.
  | noUnit

namespace Error

def reason : Error → String
  | invalid e  => e.message
  | mismatch m => m.message floatStyle
  | noName     => "wanted string or table with exactly one key"
  | noUnit     => "expected empty table"

def message (e : Error) : String :=
  "TOML parse error\n" ++ e.reason

end Error

def found : Toml → Found
  | string s  => .string s
  | integer i => .integer i
  | float x   => .float x
  | boolean b => .boolean b
  | array _
  | tables _  => .sequence
  | moment
  | table ..  => .map

abbrev Reader (α : Type) := Toml → Except Error α

namespace Reader

variable {α : Type}

def mismatch (e : Expected) : Reader α := fun v =>
  .error <| .mismatch <| .type v.found e

def bool : Reader Bool
  | .boolean b => .ok b
  | v          => mismatch .boolean v

def list (r : Reader α) : Reader (List α)
  | .array vs     => vs.mapM r
  | .tables elems => elems.mapM fun es => r (.table .header es)
  | v             => mismatch .sequence v

def unit : Reader Unit
  | .table _ []
  | .tables []
  | .array []   => .ok ()
  | _           => .error .noUnit

def choice (options : List (String × α)) : Reader α
  | .string s          => (Mismatch.known options s).mapError .mismatch
  | .table _ [(k, v)]  => do
    let x ← (Mismatch.known options k).mapError .mismatch
    unit v
    return x
  | _                  => .error .noName

end Reader

end LintReport.Toml
