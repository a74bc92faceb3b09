import LintReport.Text.Hex
import LintReport.Toml.Space

namespace LintReport.Toml

inductive Missing
  | absent
  -- It begins here and cannot be read to its end.
  | broken
deriving DecidableEq, Repr

def orBroken {α : Type} (x : Option α) : Except Missing α :=
  (x.map .ok).getD (.error .broken)

inductive Kind
  | string
  | integer
  | float
  | boolean
  | moment
  | array
  | braces
  | table
  | tables
deriving DecidableEq, Repr

def Kind.name : Kind → String
  | string  => "string"
  | integer => "integer"
  | float   => "float"
  | boolean => "boolean"
  | moment  => "datetime"
  | array   => "array"
  | braces  => "inline table"
  | table   => "table"
  | tables  => "array of tables"

inductive Invalid
  | malformed
  -- A key is defined that may not be defined here, in a table that may have a path.
  | duplicate (key : String) (holder : Option (List String))
  | reopened (path : List String)
  | closed (path : List String) (kind : Kind)
deriving DecidableEq, Repr

namespace Invalid

def written (key : String) : String :=
  let cs := key.toList
  if cs ≠ [] ∧ cs.all isBare then key else String.ofList ('"' :: cs.flatMap escaped ++ ['"'])
where
  escaped (c : Char) : List Char :=
    if c = '"' ∨ c = '\\' then ['\\', c]
    else if isText c then [c]
    else '\\' :: 'u' :: Text.hex 4 c.toNat

def dotted (path : List String) : String :=
  ".".intercalate path

def inTable : List String → String
  | []   => " in document root"
  | path => " in table `" ++ dotted path ++ "`"

def message : Invalid → String
  | malformed            => "invalid syntax"
  | duplicate key holder => "duplicate key `" ++ key ++ "`" ++ (holder.map inTable).getD ""
  | reopened path        =>
    "duplicate key `" ++ written (path.getLastD "") ++ "`" ++ inTable path.dropLast
  | closed path kind     =>
    "dotted key `" ++ dotted path ++ "` attempted to extend non-table type (" ++ kind.name ++ ")"

end Invalid

end LintReport.Toml
