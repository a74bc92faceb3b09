import LintReport.Json.Source
import LintReport.Mismatch

namespace LintReport.Json

-- Floating point numbers in errors: positional from five places behind the point up to sixteen digits
-- before it.
def floatStyle : Decimal.Style where
  positional e := decide (-5 ≤ e) && decide (e ≤ 15)
  tie          := .toEven

inductive Error
  | fault (f : Fault)
  | mismatch (m : Mismatch)

namespace Error

def message : Error → String
  | fault f    => f.message
  | mismatch m => m.message floatStyle

inductive Category
  | cut
  | malformed
  | mistyped
deriving DecidableEq, Repr

def category : Error → Category
  | fault f    => if f.isEnd then .cut else .malformed
  | mismatch _ => .mistyped

end Error

def orFault {α : Type} : Except Fault α → Except Error α :=
  Except.mapError .fault

structure Place where
  depth    : Nat := 0
  buffered : Bool := false
deriving DecidableEq, Repr

def Place.enter (p : Place) : Except Error Place :=
  orFault <| (Source.enter p.depth).map fun depth => { p with depth }

abbrev Reader (α : Type) := Place → Source → Except Error α

def Source.found : Source → Except Fault Found
  | null               => .ok .null
  | bool b             => .ok (.boolean b)
  | numeral n          => n.value.map fun
    | .integer i => .integer i
    | .float x   => .float x
  | string s           => s.map fun cs => .string (String.ofList cs)
  | list ..            => .ok .sequence
  | object ..          => .ok .map
  | broken b           => .error b.read

namespace Reader

variable {α : Type}

def mismatch (e : Expected) : Reader α := fun _ v => do
  let found ← orFault v.found
  throw <| .mismatch <| .type found e

def null : Reader Unit
  | _, .null => .ok ()
  | p, v     => mismatch .unit p v

def bool : Reader Bool
  | _, .bool b => .ok b
  | p, v       => mismatch .boolean p v

def text (e : Expected) : Reader String
  | _, .string s => orFault <| s.map String.ofList
  | p, v         => mismatch e p v

def string : Reader String := text .string

def natural (e : Expected) (limit : Nat) : Reader Nat
  | p, .numeral n => do
    match ← orFault n.value with
    | .float _   => mismatch e p (.numeral n)
    | .integer i =>
      if 0 ≤ i ∧ i < limit then
        return i.toNat
      else
        throw <| .mismatch <| .range i e
  | p, v          => mismatch e p v

def word32 : Reader UInt32 := fun p v =>
  (natural .word32 (Nat.pow 2 32) p v).map UInt32.ofNat

def word64 : Reader Nat :=
  natural .word64 (Nat.pow 2 64)

def option (r : Reader α) : Reader (Option α)
  | _, .null => .ok none
  | p, v     => (r p v).map some

def list (r : Reader α) : Reader (List α)
  | p, .list items ending => do
    let p ← p.enter
    let xs ← items.mapM (r p)
    orFault ending.readList
    return xs
  | p, v                  => mismatch .sequence p v

def variant (options : List (String × α)) : Reader α := fun p v => do
  let name ← text .variant p v
  (Mismatch.known options name).mapError .mismatch

-- A name out of several, as a string or as the only key of an object with the value null.
def choice (options : List (String × α)) : Reader α
  | p, .string s                           => variant options p (.string s)
  | p, .object [] ending                   => do
    let _ ← p.enter
    orFault ending.readObject
    throw <| .fault .noValue
  | p, .object ((key, v) :: others) ending => do
    let p ← p.enter
    let x ← variant options p (.string key)
    null p v
    match others, ending with
    | [], .closed => return x
    | [], .cut    => throw <| .fault .endOfObject
    | _,  _       => throw <| .fault .noValue
  | _, .broken (.absent f)                 => throw <| .fault f
  | _, .broken (.string f _)               => throw <| .fault f
  | _, _                                   => throw <| .fault .noValue

end Reader

def decode {α : Type} (r : Reader α) (text : String) : Except Error α := do
  let (v, rest) := Source.ofText text.toList
  let x ← r {} v
  if (dropSpace rest).isEmpty then return x else throw <| .fault .trailingText

end LintReport.Json
