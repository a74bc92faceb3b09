import LintReport.Report.Basic

namespace LintReport

inductive Breach
  | arity (e : ArityMismatch)
  | slice (first last length : Nat)
  | overflow (e : Report.Overflow)

def Kind.checkedMessage (k : Kind) : Except Breach String :=
  (substitute k.template k.arguments).mapError .arity

def Diagnostic.checkedRendered (d : Diagnostic) : Except Breach String := do
  let message ← d.kind.checkedMessage
  return d.place ++ ": [" ++ d.severity.tag ++ "] " ++ message

def Entry.checkedOf (d : Diagnostic) : Except Breach Entry := do
  let message ← d.kind.checkedMessage
  let rendered ← d.checkedRendered
  return { Entry.of d with message, rendered }

namespace Report

-- The search looks at a part of the entries, each count may overflow, and the new entry is made.
def checkedAdd (r : Report) (d : Diagnostic) : Except Breach (Report × Bool) := do
  let first := boundary (fun e => e.diagnostic.order d = .lt) r.entries
  let last  := boundary (fun e => (e.diagnostic.order d).isLE) r.entries
  if first ≤ last ∧ last ≤ r.entries.length then
    let (r, added) ← (r.add d).mapError .overflow
    if added then
      let _ ← Entry.checkedOf d
    return (r, added)
  else
    throw <| .slice first last r.entries.length

def checkedIgnore (r : Report) : Except Breach Report :=
  if r.ignoreOne.summary.Fits then .ok r.ignoreOne else .error (.overflow .counter)

def checkedOfDiagnostics (timestamp : String) (ignore : List Code) (ds : List Diagnostic) :
    Except Breach Report :=
  ds.foldlM
    (fun r d => if d.code ∈ ignore then r.checkedIgnore else (r.checkedAdd d).map (·.1))
    (empty timestamp)

end Report

end LintReport
