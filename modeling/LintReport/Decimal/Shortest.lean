namespace LintReport.Decimal

structure Scaled where
  digits   : Nat
  exponent : Int
deriving DecidableEq, Repr

def Scaled.trimmed (x : Scaled) : Scaled :=
  if h : 0 < x.digits ∧ x.digits % 10 = 0 then
    trimmed ⟨x.digits / 10, x.exponent + 1⟩
  else
    x
termination_by x.digits
decreasing_by exact Nat.div_lt_self h.1 (by decide)

inductive Tie
  | toEven
  | up
deriving DecidableEq, Repr

-- A positive number over a common denominator, with the ends of the interval of the numbers that
-- round to it. The ends themselves round to it iff `closed`.
structure Rounding where
  value  : Nat
  lower  : Nat
  upper  : Nat
  denom  : Nat
  closed : Bool
deriving DecidableEq, Repr

namespace Rounding

-- The rounding interval of `mantissa * 2 ^ exponent`. Below a power of two the neighbour is half as
-- far away as above it.
def ofBinary (mantissa : Nat) (exponent : Int) (atPower : Bool) : Rounding :=
  let scale := Nat.pow 2 (exponent - 2).toNat
  { value  := 4 * mantissa * scale
    lower  := (4 * mantissa - if atPower then 1 else 2) * scale
    upper  := (4 * mantissa + 2) * scale
    denom  := Nat.pow 2 (2 - exponent).toNat
    closed := mantissa % 2 = 0 }

variable (r : Rounding)

def magnitude : Int :=
  if r.denom ≤ r.value then
    (Nat.toDigits 10 (r.value / r.denom)).length - 1
  else
    -(below r.denom r.value 1)
where
  below : (fuel value k : Nat) → Int
    | 0,        _,     k => k
    | fuel + 1, value, k => if r.denom ≤ value * 10 then k else below fuel (value * 10) (k + 1)

def admits (n : Nat) (exponent : Int) : Bool :=
  let n := n * Nat.pow 10 exponent.toNat * r.denom
  let scale := Nat.pow 10 (-exponent).toNat
  if r.closed then
    decide (r.lower * scale ≤ n) && decide (n ≤ r.upper * scale)
  else
    decide (r.lower * scale < n) && decide (n < r.upper * scale)

def onGrid? (tie : Tie) (exponent : Int) : Option Nat :=
  let num := r.value * Nat.pow 10 (-exponent).toNat
  let den := r.denom * Nat.pow 10 exponent.toNat
  let n := num / den
  match r.admits n exponent, r.admits (n + 1) exponent with
  | true,  true  =>
    let twice := 2 * (num % den)
    let stays := twice < den ∨ (twice = den ∧ tie = .toEven ∧ n % 2 = 0)
    some <| if stays then n else n + 1
  | true,  false => some n
  | false, true  => some (n + 1)
  | false, false => none

-- A binary number of 53 bits is always met by 17 digits.
def shortest (tie : Tie) : Scaled :=
  let found? := (List.range 17).findSome? fun (k : Nat) =>
    let exponent := r.magnitude - k
    (r.onGrid? tie exponent).map (Scaled.mk · exponent)
  (found?.getD ⟨0, 0⟩).trimmed

end Rounding

end LintReport.Decimal
