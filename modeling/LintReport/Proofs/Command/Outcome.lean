import LintReport.Proofs.Command.Report
import LintReport.Proofs.Report.Verdict

namespace LintReport

namespace Report

def shown (colored : Bool) (r : Report) : OutputFormat → String
  | .text => r.page colored
  | .json => r.stored ++ "\n"

def filed (r : Report) : OutputFormat → String
  | .text => r.plain
  | .json => r.stored

variable {r : Report} {d : Diagnostic} {t t' : String} {ignore : List Code} {ds : List Diagnostic}

end Report

namespace Command

variable {w : Surroundings} {args : List String} {i : Invocation} {config : Option String}
  {input : String} {format : Option OutputFormat} {output : Option String}
  {failOn : Option FailPolicy} {c : Config} {ds : List Diagnostic}

def Surroundings.filed (w : Surroundings) (c : Config) (ds : List Diagnostic)
    (format : Option OutputFormat) : String :=
  (Report.ofDiagnostics w.timestamp c.ignore ds).filed (format.getD c.format)

-- What keeps a command from its work, whatever the diagnostics are.
inductive Hindered (w : Surroundings) (i : Invocation) : Prop
  -- The configuration that was named is missing, or there is one that cannot be read or is none.
  | configuration (h : ∀ c, ¬w.Configures i.config c)
  -- The input is missing, cannot be read, or is no list of diagnostics.
  | input {input : String} {format : Option OutputFormat} {output : Option String}
    {failOn : Option FailPolicy} (ht : i.task = .report input format output failOn)
    (h : ∀ ds, ¬(w.configured i.config).HandsOver input ds)
  | output {input : String} {format : Option OutputFormat} {output : Option String}
    {failOn : Option FailPolicy} (ht : i.task = .report input format output failOn)
    (h : ¬w.Opens output)
  | code {name : String} (ht : i.task = .codes (some name)) (h : ∀ c, Code.ofSpelling name ≠ .ok c)

-- A file was opened for the report, but these bytes are all that went in.
inductive BreaksOff (w : Surroundings) (i : Invocation) : String → ByteArray → Prop
  | intro {input path : String} {format : Option OutputFormat} {failOn : Option FailPolicy}
    {c : Config} {ds : List Diagnostic} {n : ℕ} {e : FileError}
    (ht : i.task = .report input format (some path) failOn) (hd : w.Finds i.config input c ds)
    (ho : w.opens path = .ok ()) (hw : w.writes path (w.filed c ds format) = .error (n, e)) :
    BreaksOff w i path ((w.filed c ds format).toUTF8.extract 0 n)

def delivered (colored : Bool) (r : Report) (format : OutputFormat) : Option String → Outcome
  | none      => { status := 0, output := r.shown colored format }
  | some path => { status := 0, written := some (path, (r.filed format).toUTF8) }

theorem deliver_cases (w : Surroundings) (colored : Bool) (r : Report) (f : OutputFormat)
    (output : Option String) :
    (∃ g : Failure, ¬w.Opens output ∧ deliver w colored r f output = .error g ∧ g.written = none) ∨
    (∃ (g : Failure) (path : String) (n : ℕ) (e : FileError),
      output = some path ∧ w.opens path = .ok () ∧ w.writes path (r.filed f) = .error (n, e) ∧
      deliver w colored r f output = .error g ∧
      g.written = some (path, (r.filed f).toUTF8.extract 0 n)) ∨
    w.Takes output (r.filed f) ∧
      deliver w colored r f output = .ok (delivered colored r f output) := by
  cases output
  case none => cases f <;> exact .inr <| .inr ⟨Surroundings.takes_none, rfl⟩
  case some path =>
    have ⟨failure, hf, hd⟩ : ∃ failure : FileError → Failure, (∀ e, (failure e).written = none) ∧
        deliver w colored r f (some path) = save w path (r.filed f) failure := by
      cases f <;> exact ⟨_, fun _ => rfl, rfl⟩
    rw [hd]
    obtain ⟨e, ho, hs⟩ | ⟨n, e, ho, hw, hs⟩ | ⟨ht, hs⟩ := save_cases w path (r.filed f) failure
    case inl =>
      have hn : ¬w.Opens (some path) := fun h => by cases ho.symm.trans (Surroundings.opens_some_iff.mp h)
      exact .inl ⟨_, hn, hs, hf e⟩
    case inr.inl => exact .inr <| .inl ⟨_, path, n, e, rfl, ho, hw, hs, rfl⟩
    case inr.inr => exact .inr <| .inr ⟨ht, hs⟩

theorem written_of_mapError {ε α : Type} {x : Except ε α} {failure : ε → Failure} {g : Failure}
    (hf : ∀ e, (failure e).written = none) (h : x.mapError failure = .error g) : g.written = none := by
  obtain ⟨e, _, rfl⟩ := mapError_eq_error_iff.mp h
  exact hf e

theorem written_of_loadConfig {g : Failure} (h : loadConfig w config = .error g) : g.written = none := by
  cases config
  case some path => exact written_of_mapError (fun _ => rfl) h
  case none =>
    rw [loadConfig] at h
    split at h
    case isTrue  => exact written_of_mapError (fun _ => rfl) h
    case isFalse => cases h

theorem written_of_readDiagnostics {g : Failure} (h : readDiagnostics w input = .error g) :
    g.written = none := by
  obtain h | ⟨_, _, h⟩ := bind_eq_error_iff.mp h
  case inl =>
    rw [readInput] at h
    split at h
    case isTrue  => exact written_of_mapError (fun _ => rfl) h
    case isFalse => exact written_of_mapError (fun _ => rfl) h
  case inr => exact written_of_mapError (fun _ => rfl) h

theorem Surroundings.Finds.unique {c' : Config} {ds' : List Diagnostic} (h : w.Finds config input c ds)
    (h' : w.Finds config input c' ds') : c = c' ∧ ds = ds' := by
  have hc := (loadConfig_eq_ok_iff.mpr h.configures).symm.trans (loadConfig_eq_ok_iff.mpr h'.configures)
  have hd := (readDiagnostics_eq_ok_iff.mpr h.handsOver).symm.trans
    (readDiagnostics_eq_ok_iff.mpr h'.handsOver)
  exact ⟨Except.ok.inj hc, Except.ok.inj hd⟩

theorem not_hindered (hd : w.Finds config input c ds) (ho : w.Opens output) :
    ¬Hindered w ⟨config, .report input format output failOn⟩ := by
  intro h
  cases h
  case configuration h => exact h c hd.configures
  case input ht h      => cases ht; exact h ds hd.handsOver
  case output ht h     => cases ht; exact h ho
  case code ht _       => cases ht

theorem run_of_loadConfig {g : Failure} (hp : parse args = .ok i) (h : loadConfig w i.config = .error g) :
    Hindered w i ∧ run w args = { status := 1, errors := g.report } := by
  refine ⟨.configuration fun c hc => ?hindered, ?run⟩
  case hindered => cases h.symm.trans (loadConfig_eq_ok_iff.mpr hc)
  case run      => simp only [run, hp, perform, h, error_bind, Failure.outcome, written_of_loadConfig h]

-- A run that is to report diagnostics is kept from it, breaks off, or delivers the report as a whole,
-- where the policy decides on the status alone.
theorem run_cases (hp : parse args = .ok ⟨config, .report input format output failOn⟩) :
    (Hindered w ⟨config, .report input format output failOn⟩ ∧
      ∃ g : Failure, run w args = { status := 1, errors := g.report }) ∨
    (∃ path bytes, BreaksOff w ⟨config, .report input format output failOn⟩ path bytes ∧
      ∃ g : Failure,
        run w args = { status := 1, errors := g.report, written := some (path, bytes) }) ∨
    ∃ c ds, w.Finds config input c ds ∧ w.Takes output (w.filed c ds format) ∧
      let r := Report.ofDiagnostics w.timestamp c.ignore ds
      run w args =
        { delivered (w.colors && c.color) r (format.getD c.format) output with
          status := if r.fails (failOn.getD c.failOn) then 1 else 0 } := by
  cases hc : loadConfig w config
  case error g =>
    have ⟨hh, hr⟩ := run_of_loadConfig hp hc
    exact .inl ⟨hh, g, hr⟩
  case ok c =>
    cases hd : readDiagnostics (w.configured config) input
    case error g =>
      have hn : ∀ ds, ¬(w.configured config).HandsOver input ds := fun ds h => by
        cases hd.symm.trans (readDiagnostics_eq_ok_iff.mpr h)
      refine .inl ⟨.input rfl hn, g, ?_⟩
      simp only [run, hp, perform, hc, ok_bind, runTask, runReport, hd, error_bind, Failure.outcome,
        written_of_readDiagnostics hd]
    case ok ds =>
      let q : Request w args := ⟨_, c, input, format, output, failOn, ds, hp, rfl, hc, hd⟩
      have hf : w.Finds config input c ds :=
        ⟨loadConfig_eq_ok_iff.mp hc, readDiagnostics_eq_ok_iff.mp hd⟩
      have hr := q.run_eq
      obtain ⟨g, ho, hd, hg⟩ | ⟨g, path, n, e, rfl, ho, hw, hd, hg⟩ | ⟨ht, hd⟩ :=
        deliver_cases w (w.colors && c.color) q.report q.effectiveFormat output
      case inl =>
        refine .inl ⟨.output rfl ho, g, ?_⟩
        rw [hr, hd, ← hg]
        rfl
      case inr.inl =>
        refine .inr <| .inl ⟨path, _, .intro rfl hf ho hw, g, ?_⟩
        rw [hr, hd]
        exact congrArg (fun written => { status := 1, errors := g.report, written : Outcome }) hg
      case inr.inr =>
        have hq : run w args =
            { delivered (w.colors && c.color) q.report q.effectiveFormat output with
              status := if q.fails then 1 else 0 } := by
          rw [hr, hd]
          cases q.fails
          case true  => rfl
          case false => cases output <;> rfl
        exact .inr <| .inr ⟨c, ds, hf, ht, hq⟩

theorem run_codes_cases {code : Option String} (hp : parse args = .ok ⟨config, .codes code⟩) :
    (Hindered w ⟨config, .codes code⟩ ∧
      ∃ g : Failure, run w args = { status := 1, errors := g.report }) ∨
    ¬Hindered w ⟨config, .codes code⟩ ∧ (run w args).status = 0 := by
  cases hc : loadConfig w config
  case error g =>
    have ⟨hh, hr⟩ := run_of_loadConfig hp hc
    exact .inl ⟨hh, g, hr⟩
  case ok c =>
    have hn (h : ∀ name ∈ code, ∃ c, Code.ofSpelling name = .ok c) : ¬Hindered w ⟨config, .codes code⟩ := by
      intro hh
      cases hh
      case configuration hn     => exact hn c (loadConfig_eq_ok_iff.mp hc)
      case input ht _           => cases ht
      case output ht _          => cases ht
      case code ht hn           =>
        cases ht
        have ⟨c, hc⟩ := h _ rfl
        exact hn c hc
    cases code
    case none =>
      refine .inr ⟨hn nofun, ?_⟩
      simp only [run, hp, perform, hc, ok_bind, runTask]
      rfl
    case some name =>
      cases hs : Code.ofSpelling name
      case ok c =>
        refine .inr ⟨hn fun _ h => Option.some.inj h ▸ ⟨c, hs⟩, ?_⟩
        simp only [run, hp, perform, hc, ok_bind, runTask, runCodes, hs]
        rfl
      case error e =>
        have hh : ∀ c, Code.ofSpelling name ≠ .ok c := fun c hc => by cases hs.symm.trans hc
        refine .inl ⟨.code rfl hh, { text := e.message }, ?_⟩
        simp only [run, hp, perform, hc, ok_bind, runTask, runCodes, hs]
        rfl

theorem Hindered.run_eq (h : Hindered w i) (hp : parse args = .ok i) :
    ∃ g : Failure, run w args = { status := 1, errors := g.report } := by
  have ⟨config, task⟩ := i
  cases task
  case report =>
    obtain ⟨_, hr⟩ | ⟨_, _, ⟨ht, hd, ho, _⟩, _⟩ | ⟨_, _, hd, ht, _⟩ := run_cases (w := w) hp
    case inl     => exact hr
    case inr.inl =>
      cases ht
      exact absurd h <| not_hindered hd <| Surroundings.opens_some_iff.mpr ho
    case inr.inr => exact absurd h <| not_hindered hd ht.left
  case codes =>
    obtain ⟨_, hr⟩ | ⟨hn, _⟩ := run_codes_cases (w := w) hp
    case inl => exact hr
    case inr => exact absurd h hn

theorem BreaksOff.run_eq {path : String} {bytes : ByteArray} (h : BreaksOff w i path bytes)
    (hp : parse args = .ok i) :
    ∃ g : Failure,
      run w args = { status := 1, errors := g.report, written := some (path, bytes) } := by
  have ⟨config, task⟩ := i
  obtain ⟨ht, hd, ho, hw⟩ := h
  cases ht
  obtain ⟨hh, _⟩ | ⟨_, _, ⟨ht, hd', _, hw'⟩, hr⟩ | ⟨_, _, hd', ht, _⟩ := run_cases (w := w) hp
  case inl     => exact absurd hh <| not_hindered hd <| Surroundings.opens_some_iff.mpr ho
  case inr.inl =>
    cases ht
    obtain ⟨rfl, rfl⟩ := hd.unique hd'
    cases hw.symm.trans hw'
    exact hr
  case inr.inr =>
    obtain ⟨rfl, rfl⟩ := hd.unique hd'
    cases hw.symm.trans (Surroundings.takes_some_iff.mp ht).right

theorem Surroundings.Finds.run_eq (h : w.Finds config input c ds)
    (hp : parse args = .ok ⟨config, .report input format output failOn⟩)
    (ho : w.Takes output (w.filed c ds format)) :
    let r := Report.ofDiagnostics w.timestamp c.ignore ds
    run w args =
      { delivered (w.colors && c.color) r (format.getD c.format) output with
        status := if r.fails (failOn.getD c.failOn) then 1 else 0 } := by
  obtain ⟨hh, _⟩ | ⟨_, _, ⟨ht, hd, _, hw⟩, _⟩ | ⟨_, _, hd, _, hr⟩ := run_cases (w := w) hp
  case inl     => exact absurd hh <| not_hindered h ho.left
  case inr.inl =>
    cases ht
    obtain ⟨rfl, rfl⟩ := h.unique hd
    cases hw.symm.trans (takes_some_iff.mp ho).right
  case inr.inr =>
    obtain ⟨rfl, rfl⟩ := h.unique hd
    exact hr

theorem Surroundings.Finds.status_eq_zero_iff (h : w.Finds config input c ds)
    (hp : parse args = .ok ⟨config, .report input format output failOn⟩)
    (ho : w.Takes output (w.filed c ds format)) :
    (run w args).status = 0 ↔
    ∀ d ∈ ds, c.ignores d.code = false → ¬(failOn.getD c.failOn).FailsOn d := by
  have hf : (Report.ofDiagnostics w.timestamp c.ignore ds).fails (failOn.getD c.failOn) = true ↔
      ∃ d ∈ ds, c.ignores d.code = false ∧ (failOn.getD c.failOn).FailsOn d := by
    simp [Report.ofDiagnostics_fails_iff, Config.ignores]
  have hs : (run w args).status = 0 ↔
      ¬(Report.ofDiagnostics w.timestamp c.ignore ds).fails (failOn.getD c.failOn) = true := by
    rw [h.run_eq hp ho]
    split <;> simp [*]
  rw [hs, hf]
  push Not
  rfl

end Command

end LintReport
