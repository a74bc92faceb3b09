import LintReport.Diagnostic
import LintReport.Report.Boundary
import LintReport.Report.Policy

namespace LintReport

structure Entry where
  diagnostic : Diagnostic
  code       : Code
  severity   : Severity
  score      : Nat
  severe     : Bool
  message    : String
  rendered   : String
deriving DecidableEq, Repr

def Entry.of (d : Diagnostic) : Entry where
  diagnostic := d
  code       := d.code
  severity   := d.severity
  score      := d.score
  severe     := d.isSevere
  message    := d.message
  rendered   := d.rendered

structure Summary where
  total    : Nat := 0
  errors   : Nat := 0
  warnings : Nat := 0
  severe   : Nat := 0
  files    : Nat := 0
  ignored  : Nat := 0
deriving DecidableEq, Repr

namespace Summary

def count (s : Summary) (d : Diagnostic) (newFile : Bool) : Summary where
  total    := s.total + 1
  errors   := s.errors + if d.severity = .error then 1 else 0
  warnings := s.warnings + if d.severity = .warning then 1 else 0
  severe   := s.severe + if d.isSevere then 1 else 0
  files    := s.files + if newFile then 1 else 0
  ignored  := s.ignored

def limit : Nat := Nat.pow 2 64

def Fits (s : Summary) : Prop :=
  s.total < limit ∧ s.errors < limit ∧ s.warnings < limit ∧ s.severe < limit ∧ s.files < limit ∧
  s.ignored < limit

instance (s : Summary) : Decidable s.Fits :=
  inferInstanceAs (Decidable (_ ∧ _))

end Summary

structure Version where
  major : UInt32
  minor : UInt32
deriving DecidableEq, Repr

namespace Version

def current : Version := ⟨1, 0⟩

def text (v : Version) : String :=
  toString v.major.toNat ++ "." ++ toString v.minor.toNat

end Version

structure Report where
  version   : Version
  timestamp : String
  summary   : Summary
  entries   : List Entry
deriving DecidableEq, Repr

namespace Report

def empty (timestamp : String) : Report where
  version   := .current
  timestamp := timestamp
  summary   := {}
  entries   := []

-- Adds a diagnostic behind all entries that do not come after it, unless one of the entries that
-- share its place in the order holds the same diagnostic. The neighbours of the new entry are the only
-- ones that can be about its file.
def insert? (r : Report) (d : Diagnostic) : Option Report :=
  let first := boundary (fun e => e.diagnostic.order d = .lt) r.entries
  let last  := boundary (fun e => (e.diagnostic.order d).isLE) r.entries
  if ((r.entries.take last).drop first).any (·.diagnostic = d) then
    none
  else
    let sameFile := holdsAt (fun e => e.diagnostic.filename = d.filename) r.entries
    let newFile  := !((decide (0 < last) && sameFile (last - 1)) || sameFile last)
    some { r with
      summary := r.summary.count d newFile
      entries := r.entries.take last ++ .of d :: r.entries.drop last }

def insert (r : Report) (d : Diagnostic) : Report :=
  (r.insert? d).getD r

inductive Overflow
  | counter
deriving DecidableEq, Repr

def Overflow.message : Overflow → String
  | counter => "attempt to add with overflow"

def add (r : Report) (d : Diagnostic) : Except Overflow (Report × Bool) :=
  match r.insert? d with
  | none    => .ok (r, false)
  | some r' => if r'.summary.Fits then .ok (r', true) else .error .counter

def addAll (r : Report) : List Diagnostic → Except Overflow (Report × List Bool)
  | []      => .ok (r, [])
  | d :: ds => do
    let (r, added) ← r.add d
    let (r, rest) ← r.addAll ds
    return (r, added :: rest)

def ignoreOne (r : Report) : Report :=
  { r with summary := { r.summary with ignored := r.summary.ignored + 1 } }

def ofDiagnostics (timestamp : String) (ignore : List Code) (ds : List Diagnostic) : Report :=
  ds.foldl (fun r d => if d.code ∈ ignore then r.ignoreOne else r.insert d) (empty timestamp)

variable (r : Report)

def hasErrors : Bool := decide (0 < r.summary.errors)

def hasSevere : Bool := decide (0 < r.summary.severe)

def fails : FailPolicy → Bool
  | .never  => false
  | .error  => r.hasErrors
  | .severe => r.hasSevere
  | .any    => decide (0 < r.summary.total)

def lines : List String := r.entries.map (·.rendered)

end Report

end LintReport
