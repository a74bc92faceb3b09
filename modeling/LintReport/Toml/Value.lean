import LintReport.Toml.Key
import LintReport.Toml.Moment
import LintReport.Toml.Numeral

namespace LintReport.Toml

def maxLevels : Nat := 79

def scanScalar : List Char → Option (Toml × List Char)
  | 't' :: 'r' :: 'u' :: 'e' :: r        => some (.boolean true, r)
  | 'f' :: 'a' :: 'l' :: 's' :: 'e' :: r => some (.boolean false, r)
  | '"' :: r                             => text ('"' :: r)
  | '\'' :: r                            => text ('\'' :: r)
  | s                                    =>
    match Moment.scan s with
    | .ok r          => some (.moment, r)
    | .error .absent => Numeral.scan s
    | .error .broken => none
where
  text (s : List Char) : Option (Toml × List Char) :=
    (Literal.scan s).map fun (t, r) => (.string t, r)

def orMalformed {α : Type} (x : Option α) : Except Invalid α :=
  (x.map .ok).getD (.error .malformed)

mutual

-- Every character begins at most two scans that are not finished before it, so that twice the length
-- of the text is fuel enough.
def scanValue : (fuel levels : Nat) → List Char → Except Invalid (Toml × List Char)
  | 0,        _,          _           => .error .malformed
  | fuel + 1, levels + 1, '[' :: r    => do
    let (vs, r) ← scanItems fuel levels (dropLines r)
    return (.array vs, r)
  | fuel + 1, levels + 1, '\x7b' :: r => do
    let (ps, r) ← scanPairs fuel levels r
    let es ← ps.foldlM (fun es (key, v) => put v none key es) []
    match dropBlanks r with
    | '\x7d' :: r => return (.table .inline es, r)
    | _           => throw .malformed
  | _ + 1,    _,          s           => orMalformed (scanScalar s)

def scanItems : (fuel levels : Nat) → List Char → Except Invalid (List Toml × List Char)
  | 0,        _,      _         => .error .malformed
  | _ + 1,    _,      ']' :: r  => .ok ([], r)
  | fuel + 1, levels, s         => do
    let (v, r) ← scanValue fuel levels s
    match dropLines r with
    | ']' :: r => return ([v], r)
    | ',' :: r => do
      let (vs, r) ← scanItems fuel levels (dropLines r)
      return (v :: vs, r)
    | _        => throw .malformed

-- Keys and values between braces, as far as they go. What they define together counts before what stands
-- behind them.
def scanPairs :
    (fuel levels : Nat) → List Char → Except Invalid (List (List String × Toml) × List Char)
  | 0,        _,      _ => .error .malformed
  | fuel + 1, levels, s =>
    match Key.assigned s with
    | .error .absent => .ok ([], s)
    | .error .broken => .error .malformed
    | .ok (key, r)   => do
      let (v, r) ← scanValue fuel levels r
      match dropBlanks r with
      | ',' :: r => do
        let (ps, rest) ← scanPairs fuel levels r
        return ((key, v) :: ps, if ps.isEmpty then ',' :: r else rest)
      | r        => return ([(key, v)], r)

end

end LintReport.Toml
