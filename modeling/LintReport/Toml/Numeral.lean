import LintReport.Text.Hex
import LintReport.Toml.Basic

namespace LintReport.Toml.Numeral

def isHexDigit (c : Char) : Bool :=
  (Text.hexValue? c).isSome

def isOctalDigit (c : Char) : Bool :=
  decide ('0' ≤ c) && decide (c ≤ '7')

def isBinaryDigit (c : Char) : Bool :=
  c == '0' || c == '1'

-- The digits behind a first one, without the underscores. Behind an underscore has to be a digit.
def moreDigits (isDigit : Char → Bool) : List Char → Option (List Char × List Char)
  | []            => some ([], [])
  | '_' :: d :: r =>
    if isDigit d then (moreDigits isDigit r).map fun (ds, t) => (d :: ds, t) else none
  | c :: r        =>
    if isDigit c then (moreDigits isDigit r).map fun (ds, t) => (c :: ds, t)
    else if c = '_' then none
    else some ([], c :: r)

def digits (isDigit : Char → Bool) : List Char → Option (List Char × List Char)
  | []     => none
  | c :: r =>
    if isDigit c then (moreDigits isDigit r).map fun (ds, t) => (c :: ds, t) else none

def whole : List Char → Option (List Char × List Char)
  | '0' :: r => some (['0'], r)
  | s        => digits Char.isDigit s

def sign : List Char → Bool × List Char
  | '+' :: r => (false, r)
  | '-' :: r => (true, r)
  | s        => (false, s)

def fraction : List Char → Option (List Char × List Char)
  | '.' :: r => digits Char.isDigit r
  | s        => some ([], s)

def exponent : List Char → Option (Option (Bool × List Char) × List Char)
  | []     => some (none, [])
  | c :: r =>
    if c = 'e' ∨ c = 'E' then
      let (negative, r) := sign r
      (digits Char.isDigit r).map fun (ds, t) => (some (negative, ds), t)
    else
      some (none, c :: r)

def valueOf (base : Nat) (digits : List Char) : Nat :=
  digits.foldl (fun n c => base * n + (Text.hexValue? c).getD 0) 0

def limit : Int := Nat.pow 2 63

def integer (i : Int) : Option Toml :=
  if -limit ≤ i ∧ i < limit then some (.integer i) else none

def inBase (base : Nat) (isDigit : Char → Bool) (s : List Char) : Option (Toml × List Char) := do
  let (ds, r) ← digits isDigit s
  return (← integer (valueOf base ds), r)

def infinity : Float := 1.0 / 0.0

-- The floating point number next to `digits` times a power of ten. Numbers that are far out of range
-- are not computed.
def nearest (digits : Nat) (exponent : Int) : Float :=
  let size := (Nat.toDigits 10 digits).length + exponent
  if digits = 0 ∨ size < -400 then 0
  else if 400 < size then infinity
  else Float.ofScientific digits (decide (exponent < 0)) exponent.natAbs

def float (negative : Bool) (whole fraction : List Char) (exp : Option (Bool × List Char)) : Float :=
  let e : Int := match exp with
    | none           => 0
    | some (neg, ds) => if neg then -valueOf 10 ds else valueOf 10 ds
  let x := nearest (valueOf 10 (whole ++ fraction)) (e - fraction.length)
  if negative then -x else x

-- A number in base ten. Infinity is no value of digits, unless it is negative.
def decimal (s : List Char) : Option (Toml × List Char) := do
  let (negative, r) := sign s
  let (n, r) ← whole r
  let (f, r) ← fraction r
  let (e, r) ← exponent r
  if f.isEmpty ∧ e.isNone then
    let i : Int := valueOf 10 n
    return (← integer (if negative then -i else i), r)
  else
    let x := float negative n f e
    if x == infinity then none else return (.float x, r)

def special (s : List Char) : Option (Toml × List Char) :=
  match sign s with
  | (negative, 'i' :: 'n' :: 'f' :: r) => some (.float (if negative then -infinity else infinity), r)
  | (_,        'n' :: 'a' :: 'n' :: r) => some (.float (0.0 / 0.0), r)
  | _                                  => none

def scan : List Char → Option (Toml × List Char)
  | '0' :: 'x' :: r => inBase 16 isHexDigit r
  | '0' :: 'o' :: r => inBase 8 isOctalDigit r
  | '0' :: 'b' :: r => inBase 2 isBinaryDigit r
  | s               => special s <|> decimal s

end LintReport.Toml.Numeral
