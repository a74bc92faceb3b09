import LintReport.Toml.Invalid

namespace LintReport.Toml.Moment

def number (width : Nat) (s : List Char) : Option (Nat × List Char) :=
  let ds := s.take width
  if ds.length = width ∧ ds.all Char.isDigit then
    some (ds.foldl (fun n c => 10 * n + (c.toNat - '0'.toNat)) 0, s.drop width)
  else
    none

def part (least greatest : Nat) (s : List Char) : Option (Nat × List Char) := do
  let (n, r) ← number 2 s
  if least ≤ n ∧ n ≤ greatest then return (n, r) else none

def char (c : Char) : List Char → Option (List Char)
  | []     => none
  | d :: r => if d = c then some r else none

def isLeap (year : Nat) : Bool :=
  year % 4 == 0 && (year % 100 != 0 || year % 400 == 0)

def days (year month : Nat) : Nat :=
  if month = 2 then (if isLeap year then 29 else 28)
  else if month = 4 ∨ month = 6 ∨ month = 9 ∨ month = 11 then 30
  else 31

def date (s : List Char) : Except Missing (List Char) :=
  match number 4 s with
  | some (year, '-' :: r) => orBroken (monthAndDay year r)
  | _                     => .error .absent
where
  monthAndDay (year : Nat) (s : List Char) : Option (List Char) := do
    let (month, r) ← part 1 12 s
    let (_, r) ← part 1 (days year month) (← char '-' r)
    return r

def dropFraction : List Char → List Char
  | '.' :: c :: r => if c.isDigit then r.dropWhile Char.isDigit else '.' :: c :: r
  | s             => s

-- A time begins with an hour and a colon. A minute may have a leap second.
def time (s : List Char) : Except Missing (List Char) :=
  match part 0 23 s with
  | some (_, ':' :: r) => orBroken (minuteAndSecond r)
  | _                  => .error .absent
where
  minuteAndSecond (s : List Char) : Option (List Char) := do
    let (_, r) ← part 0 59 s
    let (_, r) ← part 0 60 (← char ':' r)
    return dropFraction r

def offset : List Char → Except Missing (List Char)
  | []     => .ok []
  | c :: r =>
    if c = 'Z' ∨ c = 'z' then .ok r
    else if c = '+' ∨ c = '-' then orBroken (hourAndMinute r)
    else .ok (c :: r)
where
  hourAndMinute (s : List Char) : Option (List Char) := do
    let (_, r) ← part 0 23 s
    let (_, r) ← part 0 59 (← char ':' r)
    return r

def timeOfDay : List Char → Except Missing (List Char)
  | []     => .ok []
  | c :: r =>
    if c = 'T' ∨ c = 't' ∨ c = ' ' then
      match time r with
      | .ok r          => offset r
      | .error .absent => .ok (c :: r)
      | .error .broken => .error .broken
    else
      .ok (c :: r)

def scan (s : List Char) : Except Missing (List Char) :=
  match date s with
  | .ok r          => timeOfDay r
  | .error .absent => time s
  | .error .broken => .error .broken

end LintReport.Toml.Moment
