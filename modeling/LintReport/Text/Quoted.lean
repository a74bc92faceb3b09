import LintReport.Text.Blank
import LintReport.Text.Hex

namespace LintReport.Text

def zeroWidth : Ranges := [
  (0xAD, 0xAD), (0x200B, 0x200F), (0x202A, 0x202E), (0x2060, 0x2064), (0xFEFF, 0xFEFF)]

def controls : Ranges := [(0x00, 0x1F), (0x7F, 0x9F)]

def isPrintable (c : Char) : Bool :=
  c == ' ' || !(controls.has c || isBlank c || zeroWidth.has c)

namespace Quoted

def delimiter (s : List Char) : Char :=
  if '\'' ∈ s ∧ '"' ∉ s then '"' else '\''

def codePoint (c : Char) : List Char :=
  if c.toNat ≤ 0xFF then '\\' :: 'x' :: hex 2 c.toNat
  else if c.toNat ≤ 0xFFFF then '\\' :: 'u' :: hex 4 c.toNat
  else '\\' :: 'U' :: hex 8 c.toNat

def escape (delim c : Char) : List Char :=
  if c = '\\' then ['\\', '\\']
  else if c = '\n' then ['\\', 'n']
  else if c = '\r' then ['\\', 'r']
  else if c = '\t' then ['\\', 't']
  else if c = delim then ['\\', c]
  else if isPrintable c then [c]
  else codePoint c

def encode (s : List Char) : List Char :=
  delimiter s :: s.flatMap (escape (delimiter s)) ++ [delimiter s]

def encodeList (names : List (List Char)) : List Char :=
  '[' :: [',', ' '].intercalate (names.map encode) ++ [']']

end Quoted

def quote (s : String) : String :=
  String.ofList (Quoted.encode s.toList)

end LintReport.Text
