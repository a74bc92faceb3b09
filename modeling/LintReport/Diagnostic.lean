import LintReport.Kind

namespace LintReport

-- There is a column only where the kind reports one, and the kind is in its normal form. So two
-- diagnostics that say the same are equal.
structure Diagnostic where
  filename        : String
  location        : Location
  kind            : Kind
  location_under  : location.under kind.code.traits.columns = location
  kind_normalized : kind.normalized = kind
deriving DecidableEq, Repr

namespace Diagnostic

def make (kind : Kind) (filename : String) (location : Location) : Diagnostic where
  filename        := filename
  location        := location.under kind.code.traits.columns
  kind            := kind.normalized
  location_under  := by rw [kind.code_normalized, location.under_under]
  kind_normalized := kind.normalized_normalized

variable (d : Diagnostic)

def code : Code := d.kind.code

def severity : Severity := d.code.traits.severity

def score : Nat := d.code.traits.score

def isSevere : Bool := Severity.isSevereScore d.score

def message : String := d.kind.message

def place : String :=
  match d.location.column with
  | none   => d.filename ++ ":" ++ toString d.location.line.toNat
  | some c => d.filename ++ ":" ++ toString d.location.line.toNat ++ "(" ++ toString c.toNat ++ ")"

def rendered : String :=
  d.place ++ ": [" ++ d.severity.tag ++ "] " ++ d.message

def order (d₁ d₂ : Diagnostic) : Ordering :=
  (compare d₁.filename d₂.filename).then <|
    (d₁.location.order d₂.location).then (d₁.code.order d₂.code)

end Diagnostic

end LintReport
