import LintReport.Json.Reader

namespace LintReport.Json

structure RecordField (σ : Type) where
  name   : String
  filled : σ → Bool
  fill   : Place → Source → σ → Except Error σ
  -- Whether a list may end before the field.
  omissible : Bool := false

-- A record is read by filling its slots and then building it from them, unless one is missing.
structure Record (σ α : Type) where
  expected : Expected
  fields   : List (RecordField σ)
  build    : σ → Except Mismatch α

namespace RecordField

variable {σ α : Type}

def of (name : String) (r : Reader α) (get : σ → Option α) (put : Option α → σ → σ)
    (omissible : Bool) : RecordField σ where
  name       := name
  filled s   := (get s).isSome
  fill p v s := (r p v).map fun x => put (some x) s
  omissible  := omissible

def required (name : String) : Option α → Except Mismatch α
  | some x => .ok x
  | none   => .error (.missingField name)

end RecordField

namespace Record

variable {σ α : Type}

def readMembers (fields : List (RecordField σ)) (p : Place) :
    List (Chars × Source) → σ → Except Error σ
  | [],           s => .ok s
  | (k, v) :: ms, s => do
    let key ← orFault k
    match fields.find? (·.name = String.ofList key) with
    | none   =>
      orFault v.skip
      readMembers fields p ms s
    | some f =>
      if f.filled s then
        throw <| .mismatch <| .duplicateField f.name
      else
        let s ← f.fill p v s
        readMembers fields p ms s

def readEnd (p : Place) (size : Nat) : List Source → Ending → Except Error Unit
  | [],    .closed => .ok ()
  | items, ending  =>
    if p.buffered then
      .error <| .mismatch <| .tooLong (size + items.length) size
    else
      match items, ending with
      | [], .cut   => .error <| .fault .endOfList
      | [], .comma => .error <| .fault .trailingComma
      | _,  _      => .error <| .fault .trailingText

def readItems (expected : Expected) (size : Nat) (p : Place) :
    (index : Nat) → List (RecordField σ) → List Source → Ending → σ → Except Error σ
  | _,     [],      items,      ending, s => do
    readEnd p size items ending
    return s
  | index, f :: fs, v :: items, ending, s => do
    let s ← f.fill p v s
    readItems expected size p (index + 1) fs items ending s
  | index, f :: fs, [],         ending, s => do
    orFault ending.readList
    if f.omissible then
      readItems expected size p (index + 1) fs [] ending s
    else
      throw <| .mismatch <| .tooShort index expected size

variable (r : Record σ α) (blank : σ)

def build' (s : σ) : Except Error α :=
  (r.build s).mapError .mismatch

def read : Reader α
  | p, .object members ending => do
    let p ← p.enter
    let s ← readMembers r.fields p members blank
    orFault ending.readObject
    r.build' s
  | p, .list items ending     => do
    let p ← p.enter
    let s ← readItems r.expected r.fields.length p 0 r.fields items ending blank
    r.build' s
  | p, v                      => Reader.mismatch r.expected p v

end Record

end LintReport.Json
