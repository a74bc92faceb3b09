namespace LintReport

-- Lines count from 1 and columns from 0, but line 0 is kept if the data holds it.
structure Location where
  line   : UInt32
  column : Option UInt32 := none
deriving DecidableEq, Repr

namespace Location

def order (l₁ l₂ : Location) : Ordering :=
  (compare l₁.line l₂.line).then (compare l₁.column l₂.column)

inductive Invalid
  | lineZero
deriving DecidableEq, Repr

def Invalid.message : Invalid → String
  | lineZero => "source lines are 1-indexed"

def ofLine (line : UInt32) (column : Option UInt32) : Except Invalid Location :=
  if line = 0 then .error .lineZero else .ok { line, column }

end Location

inductive ColumnPolicy
  | reported
  | suppressed
deriving DecidableEq, Repr

namespace ColumnPolicy

def name : ColumnPolicy → String
  | reported   => "reported"
  | suppressed => "suppressed"

def kept : ColumnPolicy → String
  | reported   => "line+column"
  | suppressed => "line"

end ColumnPolicy

def Location.under (l : Location) : ColumnPolicy → Location
  | .reported   => l
  | .suppressed => { l with column := none }

theorem Location.under_under (l : Location) (p : ColumnPolicy) : (l.under p).under p = l.under p := by
  cases p <;> rfl

end LintReport
