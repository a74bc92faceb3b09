import LintReport.Text.Quoted
import LintReport.Text.Escaped

namespace LintReport

inductive Argument
  | name (s : String)
  | line (n : UInt32)
  | text (s : String)
  | names (ns : List String)
deriving DecidableEq, Repr

def Argument.shown : Argument → String
  | name s   => Text.quote s
  | line n   => toString n.toNat
  | text s   => s
  | names ns => String.ofList <| Text.Quoted.encodeList <| ns.map String.toList

namespace Template

def placeholder : String := "\x7b\x7d"

def arity : List Char → Nat
  | []                   => 0
  | '\x7b' :: '\x7d' :: r => arity r + 1
  | _ :: r               => arity r

-- The text around the placeholders: one piece more than there are placeholders.
def pieces : List Char → List (List Char)
  | []                   => [[]]
  | '\x7b' :: '\x7d' :: r => [] :: pieces r
  | c :: r =>
    match pieces r with
    | []      => [[c]]
    | p :: ps => (c :: p) :: ps

def fill : List (List Char) → List (List Char) → List Char
  | p :: ps, a :: as => p ++ a ++ fill ps as
  | ps,      _       => ps.flatten

end Template

structure ArityMismatch where
  template : String
  expected : Nat
  supplied : Nat
deriving DecidableEq, Repr

def ArityMismatch.message (e : ArityMismatch) : String :=
  "assertion `left == right` failed: template " ++ Text.Escaped.inQuotes e.template ++ " takes " ++
  toString e.expected ++ " argument(s) but " ++ toString e.supplied ++ " were supplied\n  left: " ++
  toString e.expected ++ "\n right: " ++ toString e.supplied

def substitute (template : String) (args : List Argument) : Except ArityMismatch String :=
  let expected := Template.arity template.toList
  if expected = args.length then
    .ok <| String.ofList <|
      Template.fill (Template.pieces template.toList) (args.map (·.shown.toList))
  else
    .error ⟨template, expected, args.length⟩

end LintReport
