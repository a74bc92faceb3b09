import LintReport.Proofs.Command.Findings
import LintReport.Proofs.Report.Run

namespace LintReport.Command

theorem deliver_congr {w w' : Surroundings} (ho : w'.opens = w.opens) (hw : w'.writes = w.writes) :
    deliver w' = deliver w := by
  funext colored r format output
  cases format <;> cases output <;> simp only [deliver, save, ho, hw]

theorem deliver_configured (w : Surroundings) (config : Option String) :
    deliver (w.configured config) = deliver w :=
  deliver_congr (w.opens_configured config) (w.writes_configured config)

theorem save_cases (w : Surroundings) (path text : String) (failure : FileError → Failure) :
    (∃ e, w.opens path = .error e ∧ save w path text failure = .error (failure e)) ∨
    (∃ n e, w.opens path = .ok () ∧ w.writes path text = .error (n, e) ∧
      save w path text failure =
        .error { failure e with written := some (path, text.toUTF8.extract 0 n) }) ∨
    w.Takes (some path) text ∧
      save w path text failure = .ok { status := 0, written := some (path, text.toUTF8) } := by
  rw [save]
  cases ho : w.opens path
  case error e => exact .inl ⟨e, rfl, rfl⟩
  case ok =>
    cases hw : w.writes path text
    case error e => exact .inr <| .inl ⟨e.1, e.2, rfl, rfl, rfl⟩
    case ok      => exact .inr <| .inr ⟨Surroundings.takes_some_iff.mpr ⟨ho, hw⟩, rfl⟩

theorem save_eq_ok {w : Surroundings} {path text : String} {failure : FileError → Failure}
    (h : w.Takes (some path) text) :
    save w path text failure = .ok { status := 0, written := some (path, text.toUTF8) } := by
  have ⟨ho, hw⟩ := Surroundings.takes_some_iff.mp h
  rw [save, ho, hw]
  rfl

structure Request (w : Surroundings) (args : List String) where
  invocation  : Invocation
  config      : Config
  input       : String
  format      : Option OutputFormat
  output      : Option String
  failOn      : Option FailPolicy
  diagnostics : List Diagnostic
  parsed      : parse args = .ok invocation
  task        : invocation.task = .report input format output failOn
  loaded      : loadConfig w invocation.config = .ok config
  read        : readDiagnostics (w.configured invocation.config) input = .ok diagnostics

namespace Request

variable {w : Surroundings} {args : List String}

def report (q : Request w args) : Report :=
  .ofDiagnostics w.timestamp q.config.ignore q.diagnostics

def effectiveFormat (q : Request w args) : OutputFormat :=
  q.format.getD q.config.format

def fails (q : Request w args) : Bool :=
  q.report.fails (q.failOn.getD q.config.failOn)

theorem run_eq (q : Request w args) :
    run w args =
    match deliver w (w.colors && q.config.color) q.report q.effectiveFormat q.output with
    | .ok o    => if q.fails then { o with status := 1 } else o
    | .error f => f.outcome := by
  have hp : perform w q.invocation =
      runReport (w.configured q.invocation.config) q.config q.input q.format q.output q.failOn := by
    rw [perform, q.loaded, ok_bind, q.task, runTask]
  have hr : Report.ofDiagnostics w.timestamp q.config.ignore q.diagnostics = q.report := rfl
  simp only [run, q.parsed, hp, runReport, q.read, ok_bind, deliver_configured,
    Surroundings.timestamp_configured, Surroundings.colors_configured, effectiveFormat, hr]
  cases deliver w (w.colors && q.config.color) q.report (q.format.getD q.config.format) q.output
  case error => rfl
  case ok    => rfl

theorem start (q : Request w args) (h : q.diagnostics.length < Summary.limit) :
    Report.Start q.report (q.diagnostics.countP (q.config.ignores ·.code)) :=
  .ofDiagnostics w.timestamp q.config q.diagnostics h

section Json

variable (q : Request w args) (hf : q.effectiveFormat = .json)
include hf

theorem output_of_json (ho : q.output = none) : (run w args).output = q.report.stored ++ "\n" := by
  rw [run_eq q, hf, ho, deliver]
  cases q.fails <;> rfl

theorem written_of_json {path : String} (ho : q.output = some path)
    (hw : w.Takes (some path) q.report.stored) :
    (run w args).written = some (path, q.report.stored.toUTF8) := by
  simp only [run_eq q, hf, ho, deliver, save_eq_ok hw]
  cases q.fails <;> rfl

end Json

end Request

end LintReport.Command

namespace LintReport.Report

open Command (Surroundings Request)

-- A report that was built by adding diagnostics is loaded as it was stored, so that a reload anywhere in
-- a run changes nothing, and what a command prints or writes in the stored form is the report it built.
theorem stored_loads :
    (∀ {start r : Report} {n : ℕ} {ss : List Step} {answers : List Bool}, Start start n →
      start.run ss = .ok (r, answers) → load r.stored = .ok r) ∧
    (∀ {start : Report} {n : ℕ} (ss ss' : List Step), Start start n →
      start.run (ss ++ .reload :: ss') = start.run (ss ++ ss')) ∧
    ∀ {w : Surroundings} {args : List String} (q : Request w args), q.effectiveFormat = .json →
      q.diagnostics.length < Summary.limit →
      (q.output = none →
        ∃ text, (Command.run w args).output = text ++ "\n" ∧ load text = .ok q.report) ∧
      ∀ path, q.output = some path → w.Takes (some path) q.report.stored →
        ∃ text : String, (Command.run w args).written = some (path, text.toUTF8) ∧
          load text = .ok q.report := by
  refine ⟨fun h hr => (h.storable.run hr).load_stored, fun ss ss' h => h.storable.run_reload ss ss',
    fun q hf hl => ?_⟩
  have h := (q.start hl).storable.load_stored
  exact ⟨fun ho => ⟨_, q.output_of_json hf ho, h⟩,
    fun _ ho hw => ⟨_, q.written_of_json hf ho hw, h⟩⟩

theorem stored_loads_quoted :
    let d : Diagnostic := .make (.undefinedName "\"\\\n") "a.py" ⟨1, some 0⟩
    let r := ofDiagnostics "" [] [d]
    let found := (Diagnostic.listToJson [d]).pretty.toUTF8
    let w : Surroundings := {
      present      := fun _ => false
      read         := fun path => if path = "found.json" then .ok found else .error .missing
      opens        := fun _ => .ok ()
      writes       := fun _ _ => .ok ()
      leadsToInput := fun _ => false
      input        := found
      colors       := false
      timestamp    := "" }
    load r.stored = .ok r ∧
    r.run [.reload, .add d] = r.run [.add d] ∧
    ∃ text, (Command.run w ["report", "--format", "json", "found.json"]).output = text ++ "\n" ∧
      load text = .ok r := by
  intro d r found w
  have h : Start r 0 := .ofDiagnostics "" {} [d] (by decide)
  -- The diagnostics are found whether or not the path names the standard input.
  have ht : Command.readInput w "found.json" = .ok (Diagnostic.listToJson [d]).pretty := by
    have hc : w.content "found.json" = .ok found := rfl
    rw [Command.readInput, hc, Except.bind, Command.decodeText_toUTF8]
    split <;> rfl
  have hd : Command.readDiagnostics w "found.json" = .ok [d] := by
    rw [Command.readDiagnostics, ht, ok_bind, (Diagnostic.decode_list [d]).right]
    rfl
  let q : Request w ["report", "--format", "json", "found.json"] := {
    invocation  := ⟨none, .report "found.json" (some .json) none none⟩
    config      := {}
    input       := "found.json"
    format      := some .json
    output      := none
    failOn      := none
    diagnostics := [d]
    parsed      := rfl
    task        := rfl
    loaded      := rfl
    read        := hd }
  exact ⟨stored_loads.1 h (rfl : r.run [] = .ok (r, [])), stored_loads.2.1 [] [.add d] h,
    (stored_loads.2.2 q rfl (by decide : 1 < Summary.limit)).1 rfl⟩

end LintReport.Report
