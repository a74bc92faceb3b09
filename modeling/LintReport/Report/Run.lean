import LintReport.Report.Json

namespace LintReport.Report

inductive Step
  | add (d : Diagnostic)
  -- The report is stored, and what was stored is loaded in its place.
  | reload

inductive Stop
  | overflow (e : Overflow)
  | unreadable (e : Json.Error)

def step (r : Report) : Step → Except Stop (Report × List Bool)
  | .add d  => do
    let (r, added) ← (r.add d).mapError .overflow
    return (r, [added])
  | .reload => do
    let r ← (load r.stored).mapError .unreadable
    return (r, [])

def run (r : Report) : List Step → Except Stop (Report × List Bool)
  | []      => .ok (r, [])
  | s :: ss => do
    let (r, answers) ← r.step s
    let (r, rest) ← r.run ss
    return (r, answers ++ rest)

inductive Action
  | step (s : Step)
  | load (text : String)

def act (r : Report) : Action → Except Stop (Report × List Bool)
  | .step s    => r.step s
  | .load text => do
    let r ← (load text).mapError .unreadable
    return (r, [])

def session (r : Report) : List Action → Except Stop (Report × List Bool)
  | []      => .ok (r, [])
  | a :: as => do
    let (r, answers) ← r.act a
    let (r, rest) ← r.session as
    return (r, answers ++ rest)

end LintReport.Report
