import LintReport.Config
import LintReport.Toml.Reader

namespace LintReport.Config

open Toml (Reader)

def Settings.take (s : Settings) : String × Toml → Except Toml.Error Settings
  | ("fail_on", v) => do return { s with failOn := some (← Reader.choice FailPolicy.options v) }
  | ("format", v)  => do return { s with format := some (← Reader.choice OutputFormat.options v) }
  | ("ignore", v)  => do return { s with ignore := some (← Reader.list (Reader.choice Code.options) v) }
  | ("color", v)   => do return { s with color := some (← Reader.bool v) }
  | _              => .ok s

def ofToml (text : String) : Except Toml.Error Config := do
  let entries ← (Toml.ofText text).mapError .invalid
  return ofSettings (← entries.foldlM Settings.take {})

namespace Written

def quoted (name : String) : List Char :=
  '"' :: name.toList ++ ['"']

def list : List String → List Char
  | []    => ['[', ']']
  | [n]   => '[' :: quoted n ++ [']']
  | names => '[' :: '\n' :: names.flatMap element ++ [']']
where
  element (n : String) : List Char := ' ' :: ' ' :: ' ' :: ' ' :: quoted n ++ [',', '\n']

def entry (key : String) (v : List Char) : List Char :=
  key.toList ++ ' ' :: '=' :: ' ' :: v ++ ['\n']

end Written

def toToml (c : Config) : String :=
  String.ofList <|
    Written.entry "fail_on" (Written.quoted c.failOn.name) ++
    Written.entry "format" (Written.quoted c.format.name) ++
    Written.entry "ignore" (Written.list (c.ignore.map (·.name))) ++
    Written.entry "color" (toString c.color).toList

end LintReport.Config
