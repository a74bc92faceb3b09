import LintReport.Decimal.Shortest

namespace LintReport.Decimal

structure Style where
  -- Whether a number whose first digit has this exponent is written without an exponent.
  positional : Int → Bool
  -- How the last digit is chosen where two are equally near.
  tie        : Tie

def zeros (n : Nat) : List Char :=
  List.replicate n '0'

def exponent (e : Int) : List Char :=
  'e' :: (if e < 0 then '-' else '+') :: Nat.toDigits 10 e.natAbs

def Style.positive (s : Style) (x : Scaled) : List Char :=
  let digits := Nat.toDigits 10 x.digits
  let first : Int := x.exponent + digits.length - 1
  if s.positional first then
    if 0 ≤ x.exponent then
      digits ++ zeros x.exponent.toNat ++ ['.', '0']
    else if 0 ≤ first then
      digits.take (first.toNat + 1) ++ '.' :: digits.drop (first.toNat + 1)
    else
      '0' :: '.' :: (zeros (-first - 1).toNat ++ digits)
  else
    digits.take 1 ++ (if 1 < digits.length then '.' :: digits.drop 1 else []) ++ exponent first

def Style.text (s : Style) (x : Float) : String :=
  let bits := x.toBits.toNat
  let fraction := bits % Nat.pow 2 52
  let exponent := bits / Nat.pow 2 52 % Nat.pow 2 11
  let sign : List Char := if Nat.pow 2 63 ≤ bits then ['-'] else []
  let digits : List Char :=
    if fraction = 0 ∧ exponent = 0 then
      ['0', '.', '0']
    else
      let mantissa := if exponent = 0 then fraction else Nat.pow 2 52 + fraction
      let r := Rounding.ofBinary mantissa ((max exponent 1 : Nat) - 1075)
        (decide (fraction = 0) && decide (1 < exponent))
      s.positive (r.shortest s.tie)
  if exponent = Nat.pow 2 11 - 1 then
    if fraction = 0 then String.ofList (sign ++ ['i', 'n', 'f']) else "NaN"
  else
    String.ofList (sign ++ digits)

end LintReport.Decimal
