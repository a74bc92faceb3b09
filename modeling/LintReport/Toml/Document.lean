import LintReport.Toml.Value

namespace LintReport.Toml

inductive Statement
  | define (key : List String) (v : Toml)
  | header (path : List String)
  -- Opens the next one of several tables under the same header.
  | element (path : List String)

namespace Statement

def scanHeader (s : List Char) : Option (List String × List Char) := do
  let (path, r) ← (Key.path s).toOption
  match r with
  | ']' :: r => return (path, r)
  | _        => none

def scan (fuel : Nat) : List Char → Except Invalid (Statement × List Char)
  | '[' :: '[' :: r => do
    match ← orMalformed (scanHeader r) with
    | (path, ']' :: r) => return (element path, r)
    | _                => throw .malformed
  | '[' :: r        => do
    let (path, r) ← orMalformed (scanHeader r)
    return (header path, r)
  | s               => do
    let (key, r) ← orMalformed (Key.assigned s).toOption
    let (v, r) ← scanValue fuel maxLevels r
    return (define key v, r)

end Statement

-- The statements of a text, and what ends them before the text does. Each has its own line, and there
-- are at most as many as characters.
def statements : (fuel : Nat) → List Char → List Statement × Option Invalid
  | 0,        _ => ([], some .malformed)
  | fuel + 1, s =>
    match dropLines s with
    | []     => ([], none)
    | c :: r =>
      match Statement.scan (2 * (r.length + 1) + 2) (c :: r) with
      | .error e    => ([], some e)
      | .ok (st, r) =>
        match endLine? r with
        | none   => ([], some .malformed)
        | some r =>
          let (sts, e?) := statements fuel r
          (st :: sts, e?)

structure Draft where
  entries : Entries := []
  current : List String := []

namespace Draft

def enter (d : Draft) (path : List String) (f : List String → Entries → Except Invalid Entries) :
    Except Invalid Draft := do
  let entries ← under .header (fun _ => f path) [] path.dropLast .header d.entries
  return { entries, current := path }

def follow (d : Draft) : Statement → Except Invalid Draft
  | .define key v => do
    let entries ← under .header (fun _ => put v (some d.current) key) [] d.current .header d.entries
    return { d with entries }
  | .header path  => d.enter path openTable
  | .element path => d.enter path openElement

end Draft

def dropMark : List Char → List Char
  | '\ufeff' :: r => r
  | s             => s

-- The table that a text defines. What the statements before a fault do wrong counts before the fault.
def ofText (text : String) : Except Invalid Entries := do
  let s := dropMark text.toList
  let (sts, e?) := statements (s.length + 1) s
  let d ← sts.foldlM Draft.follow {}
  match e? with
  | none   => return d.entries
  | some e => throw e

end LintReport.Toml
