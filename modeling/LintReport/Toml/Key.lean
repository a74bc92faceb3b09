import LintReport.Toml.Invalid
import LintReport.Toml.Literal

namespace LintReport.Toml.Key

def part : List Char → Except Missing (String × List Char)
  | '"' :: r  => orBroken (Literal.scan.written (Literal.basic r))
  | '\'' :: r => orBroken (Literal.scan.written (Literal.plain r))
  | s         =>
    match s.takeWhile isBare with
    | []   => .error .absent
    | name => .ok (String.ofList name, s.dropWhile isBare)

def parts : (fuel : Nat) → List Char → Except Missing (List String × List Char)
  | 0,        _ => .error .absent
  | fuel + 1, s => do
    let (p, r) ← part (dropBlanks s)
    match dropBlanks r with
    | '.' :: r =>
      match parts fuel r with
      | .ok (ps, r)     => return (p :: ps, r)
      | .error .absent  => return ([p], '.' :: r)
      | .error .broken  => throw .broken
    | r        => return ([p], r)

def maxParts : Nat := 79

def path (s : List Char) : Except Missing (List String × List Char) := do
  let (ps, r) ← parts (s.length + 1) s
  if maxParts < ps.length then throw .absent else return (ps, r)

def assigned (s : List Char) : Except Missing (List String × List Char) := do
  let (key, r) ← path s
  match r with
  | '=' :: r => return (key, dropBlanks r)
  | _        => throw .broken

end LintReport.Toml.Key
