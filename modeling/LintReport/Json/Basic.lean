import LintReport.Json.Literal

namespace LintReport

inductive Json
  | null
  | bool (b : Bool)
  | int (i : Int)
  | string (s : String)
  | array (items : List Json)
  | object (members : List (String × Json))

namespace Json

def scalar : Json → List Char
  | bool true  => ['t', 'r', 'u', 'e']
  | bool false => ['f', 'a', 'l', 's', 'e']
  | int i      => (if i < 0 then ['-'] else []) ++ Nat.toDigits 10 i.natAbs
  | string s   => Literal.encode s.toList
  | _          => ['n', 'u', 'l', 'l']

mutual

def compactChars : Json → List Char
  | array items    => '[' :: compactItems items ++ [']']
  | object members => '\x7b' :: compactMembers members ++ ['\x7d']
  | j              => scalar j

def compactItems : List Json → List Char
  | []      => []
  | [j]     => compactChars j
  | j :: js => compactChars j ++ ',' :: compactItems js

def compactMembers : List (String × Json) → List Char
  | []           => []
  | [(k, j)]     => Literal.encode k.toList ++ ':' :: compactChars j
  | (k, j) :: ms => Literal.encode k.toList ++ ':' :: compactChars j ++ ',' :: compactMembers ms

end

def newline (depth : Nat) : List Char :=
  '\n' :: List.replicate (2 * depth) ' '

mutual

def prettyChars (depth : Nat) : Json → List Char
  | array []       => ['[', ']']
  | array items    => '[' :: prettyItems (depth + 1) items ++ newline depth ++ [']']
  | object []      => ['\x7b', '\x7d']
  | object members => '\x7b' :: prettyMembers (depth + 1) members ++ newline depth ++ ['\x7d']
  | j              => scalar j

def prettyItems (depth : Nat) : List Json → List Char
  | []      => []
  | [j]     => newline depth ++ prettyChars depth j
  | j :: js => newline depth ++ prettyChars depth j ++ ',' :: prettyItems depth js

def prettyMembers (depth : Nat) : List (String × Json) → List Char
  | []           => []
  | [(k, j)]     =>
    newline depth ++ Literal.encode k.toList ++ ':' :: ' ' :: prettyChars depth j
  | (k, j) :: ms =>
    newline depth ++ Literal.encode k.toList ++ ':' :: ' ' :: prettyChars depth j ++
      ',' :: prettyMembers depth ms

end

def compact (j : Json) : String :=
  String.ofList j.compactChars

def pretty (j : Json) : String :=
  String.ofList (j.prettyChars 0)

end Json

end LintReport
