import LintReport.Decimal.Text
import LintReport.Text.Escaped

namespace LintReport

inductive Found
  | null
  | boolean (b : Bool)
  | integer (i : Int)
  | float (x : Float)
  | string (s : String)
  | sequence
  | map

def Found.text (floats : Decimal.Style) : Found → String
  | null      => "null"
  | boolean b => "boolean `" ++ toString b ++ "`"
  | integer i => "integer `" ++ toString i ++ "`"
  | float x   => "floating point `" ++ floats.text x ++ "`"
  | string s  => "string " ++ Text.Escaped.inQuotes s
  | sequence  => "sequence"
  | map       => "map"

inductive Expected
  | word32
  | word64
  | string
  | boolean
  | sequence
  | unit
  | variant
  | struct (name : String)
  | structVariant (type variant : String)
  | tagged (type : String)
deriving DecidableEq, Repr

def Expected.text : Expected → String
  | word32            => "u32"
  | word64            => "usize"
  | string            => "a string"
  | boolean           => "a boolean"
  | sequence          => "a sequence"
  | unit              => "unit"
  | variant           => "variant identifier"
  | struct n          => "struct " ++ n
  | structVariant t v => "struct variant " ++ t ++ "::" ++ v
  | tagged t          => "internally tagged enum " ++ t

inductive Mismatch
  | type (found : Found) (expected : Expected)
  | range (found : Int) (expected : Expected)
  | tooShort (length : Nat) (expected : Expected) (size : Nat)
  | tooLong (length size : Nat)
  | unknownVariant (name : String) (known : List String)
  | missingField (name : String)
  | duplicateField (name : String)

namespace Mismatch

def known {α : Type} (options : List (String × α)) (name : String) : Except Mismatch α :=
  match options.find? (·.1 = name) with
  | some o => .ok o.2
  | none   => .error <| .unknownVariant name (options.map (·.1))

def elements (n : Nat) : String :=
  toString n ++ if n = 1 then " element" else " elements"

def alternatives : List String → String
  | [a, b] => "`" ++ a ++ "` or `" ++ b ++ "`"
  | names  => "one of " ++ ", ".intercalate (names.map fun n => "`" ++ n ++ "`")

def message (floats : Decimal.Style) : Mismatch → String
  | type f e           => "invalid type: " ++ f.text floats ++ ", expected " ++ e.text
  | range i e          => "invalid value: " ++ (Found.integer i).text floats ++ ", expected " ++ e.text
  | tooShort n e k     =>
    "invalid length " ++ toString n ++ ", expected " ++ e.text ++ " with " ++ elements k
  | tooLong n k        =>
    "invalid length " ++ toString n ++ ", expected " ++ elements k ++ " in sequence"
  | unknownVariant n k => "unknown variant `" ++ n ++ "`, expected " ++ alternatives k
  | missingField n     => "missing field `" ++ n ++ "`"
  | duplicateField n   => "duplicate field `" ++ n ++ "`"

end Mismatch

end LintReport
