import LintReport.Text.Unseen

namespace LintReport.Text.Escaped

def codePoint (c : Char) : List Char :=
  '\\' :: 'u' :: '\x7b' :: (Nat.toDigits 16 c.toNat ++ ['\x7d'])

def shown (c : Char) : List Char :=
  if c = '"' then ['\\', '"']
  else if c = '\\' then ['\\', '\\']
  else if c = '\n' then ['\\', 'n']
  else if c = '\r' then ['\\', 'r']
  else if c = '\t' then ['\\', 't']
  else if c = '\x00' then ['\\', '0']
  else if isUnseen c then codePoint c
  else [c]

def inQuotes (s : String) : String :=
  String.ofList ('"' :: s.toList.flatMap shown ++ ['"'])

def asciiChar (c : Char) : List Char :=
  if c = '"' ∨ c = '\'' ∨ c = '\\' then ['\\', c]
  else if c = '\n' then ['\\', 'n']
  else if c = '\r' then ['\\', 'r']
  else if c = '\t' then ['\\', 't']
  else if ' ' ≤ c ∧ c ≤ '~' then [c]
  else codePoint c

def ascii (s : String) : String :=
  String.ofList (s.toList.flatMap asciiChar)

end LintReport.Text.Escaped
