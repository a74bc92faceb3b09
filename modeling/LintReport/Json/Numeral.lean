import LintReport.Json.Fault

namespace LintReport.Json

structure Numeral where
  negative : Bool
  whole    : List Nat
  fraction : List Nat
  -- Whether it is negative, and its digits.
  exponent : Option (Bool × List Nat)
deriving DecidableEq, Repr

inductive Number
  | integer (i : Int)
  | float (x : Float)

namespace Numeral

-- Where the text ends within a numeral, one that is read and one that is passed over differ in what
-- is wrong.
structure Cut where
  read    : Fault
  skipped : Fault
deriving DecidableEq, Repr

def Cut.bad : Cut := ⟨.badNumber, .badNumber⟩

def Cut.missingDigit : List Char → Cut
  | []     => ⟨.endOfValue, .badNumber⟩
  | _ :: _ => .bad

def digit (c : Char) : Nat :=
  c.toNat - '0'.toNat

def digits (s : List Char) : List Nat × List Char :=
  ((s.takeWhile Char.isDigit).map digit, s.dropWhile Char.isDigit)

def scanWhole : List Char → Except Cut (List Nat × List Char)
  | '0' :: r =>
    match r with
    | c :: _ => if c.isDigit then .error .bad else .ok ([0], r)
    | []     => .ok ([0], [])
  | s =>
    match digits s with
    | ([], r) => .error (.missingDigit r)
    | found   => .ok found

def scanFraction : List Char → Except Cut (List Nat × List Char)
  | '.' :: r =>
    match digits r with
    | ([], r) => .error (.missingDigit r)
    | found   => .ok found
  | s => .ok ([], s)

def scanExponent : List Char → Except Cut (Option (Bool × List Nat) × List Char)
  | c :: r =>
    if c = 'e' ∨ c = 'E' then
      let (negative, r) := sign r
      match digits r with
      | ([], r) => .error (.missingDigit r)
      | (ds, r) => .ok (some (negative, ds), r)
    else
      .ok (none, c :: r)
  | [] => .ok (none, [])
where
  sign : List Char → Bool × List Char
    | '+' :: r => (false, r)
    | '-' :: r => (true, r)
    | r        => (false, r)

def scan (negative : Bool) (s : List Char) : Except Cut (Numeral × List Char) := do
  let (whole, s) ← scanWhole s
  let (fraction, s) ← scanFraction s
  let (exponent, s) ← scanExponent s
  return ({ negative, whole, fraction, exponent }, s)

-- Digits are taken into a word of 64 bits. The first one that does not fit and those behind it are
-- left over.
def absorb (word : Nat) : List Nat → Nat × List Nat
  | []      => (word, [])
  | d :: ds => if word * 10 + d < Nat.pow 2 64 then absorb (word * 10 + d) ds else (word, d :: ds)

def power (n : Nat) : Float :=
  Float.ofScientific 1 false n

def scaleDown (x : Float) (n : Nat) : Float :=
  if n ≤ 308 then x / power n
  else if x == 0 then x
  else scaleDown (x / power 308) (n - 308)
termination_by n

def scaleUp (x : Float) (n : Nat) : Except Fault Float :=
  if n ≤ 308 then
    let y := x * power n
    if y.isInf then .error .numberRange else .ok y
  else if x == 0 then
    .ok x
  else
    .error .numberRange

def scale (word : Nat) (exponent : Int) : Except Fault Float :=
  let x := word.toUInt64.toFloat
  if 0 ≤ exponent then scaleUp x exponent.toNat else .ok (scaleDown x (-exponent).toNat)

def scaleBy (word : Nat) (exponent : Int) : Option (Bool × List Nat) → Except Fault Float
  | none                => scale word exponent
  | some (negative, ds) =>
    let n : Nat := ds.foldl (fun n d => n * 10 + d) 0
    if n < Nat.pow 2 31 then
      scale word (if negative then exponent - n else exponent + n)
    else if word ≠ 0 ∧ !negative then
      .error .numberRange
    else
      .ok 0

-- Integers of 64 bits are kept; all other numbers are floating point numbers, minus zero included.
def value (n : Numeral) : Except Fault Number := do
  let (word, left) := absorb 0 n.whole
  if left.isEmpty ∧ n.fraction.isEmpty ∧ n.exponent.isNone ∧
      (!n.negative ∨ (word ≠ 0 ∧ word ≤ Nat.pow 2 63)) then
    return .integer (if n.negative then -(word : Int) else word)
  else
    let (word, unread) := absorb word n.fraction
    let exponent : Int := left.length - (n.fraction.length - unread.length : Nat)
    let x ← scaleBy word exponent n.exponent
    return .float (if n.negative then -x else x)

end Numeral

end LintReport.Json
