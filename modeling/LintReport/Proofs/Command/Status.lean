import LintReport.Proofs.Command.Outcome

namespace LintReport.Command

section Reading

variable {w : Surroundings} {present : String → Bool} {read : String → Except FileError ByteArray}

theorem Surroundings.content_read {path : String} (h : read path = w.read path) :
    { w with present, read }.content path = w.content path := by
  simp only [content, h]

theorem Surroundings.configured_read {config : Option String}
    (hp : config = none → present defaultConfig = w.present defaultConfig) :
    { w with present, read }.configured config = { w.configured config with present, read } := by
  have h (path : String) :
      { w with present, read }.after path = { w.after path with present, read } := by
    simp only [after]
    split <;> rfl
  cases config
  case some path => exact h path
  case none =>
    simp only [configured, hp rfl]
    split
    case isTrue  => exact h defaultConfig
    case isFalse => rfl

theorem loadConfig_read {config : Option String}
    (hp : config = none → present defaultConfig = w.present defaultConfig)
    (h : read (config.getD defaultConfig) = w.read (config.getD defaultConfig)) :
    loadConfig { w with present, read } config = loadConfig w config := by
  have hc : { w with present, read }.content (config.getD defaultConfig) =
      w.content (config.getD defaultConfig) := Surroundings.content_read h
  cases config
  case none      => rw [Option.getD_none] at hc; simp only [loadConfig, hp rfl, hc]
  case some path => rw [Option.getD_some] at hc; simp only [loadConfig, hc]

theorem readDiagnostics_read {path : String} (h : isInput path = false → read path = w.read path) :
    readDiagnostics { w with present, read } path = readDiagnostics w path := by
  refine readDiagnostics_congr ?_
  rw [Surroundings.inputBytes, Surroundings.inputBytes]
  cases hi : isInput path
  case true  => rfl
  case false => rw [Surroundings.content_read (h hi)]

theorem perform_read {i : Invocation}
    (hp : i.config = none → present defaultConfig = w.present defaultConfig)
    (h : ∀ path ∈ readPaths i, read path = w.read path) :
    perform { w with present, read } i = perform w i := by
  have ⟨config, task⟩ := i
  have hc : loadConfig { w with present, read } config = loadConfig w config :=
    loadConfig_read hp <| h _ List.mem_cons_self
  rw [perform, perform, hc, Surroundings.configured_read hp]
  cases task
  case codes => rfl
  case report input format output failOn =>
    have hr : readDiagnostics { w.configured config with present, read } input =
        readDiagnostics (w.configured config) input :=
      readDiagnostics_read fun hi => by
        rw [h input (by simp [readPaths, hi]), Surroundings.read_configured]
    simp only [runTask, runReport, hr]
    rfl

end Reading

section Verdict

variable {w w' : Surroundings} {args args' : List String} {config config' : Option String}
  {input input' : String} {format format' : Option OutputFormat} {output output' : Option String}
  {failOn failOn' : Option FailPolicy} {c : Config} {ds : List Diagnostic}

theorem succeeds_iff (hp : parse args = .ok ⟨config, .report input format output failOn⟩) :
    (run w args).status = 0 ↔
    ∃ c ds, w.Finds config input c ds ∧ w.Takes output (w.filed c ds format) ∧
      ∀ d ∈ ds, c.ignores d.code = false → ¬(failOn.getD c.failOn).FailsOn d := by
  constructor
  case mp =>
    intro hs
    obtain ⟨_, g, hr⟩ | ⟨_, _, _, g, hr⟩ | ⟨c, ds, hd, ho, _⟩ := run_cases (w := w) hp
    case inr.inr => exact ⟨c, ds, hd, ho, (hd.status_eq_zero_iff hp ho).mp hs⟩
    all_goals
      rw [hr] at hs
      cases hs
  case mpr =>
    rintro ⟨c, ds, hd, ho, h⟩
    exact (hd.status_eq_zero_iff hp ho).mpr h

theorem status_eq_one (hp : parse args = .ok ⟨config, .report input format output failOn⟩)
    (hs : (run w args).status ≠ 0) : (run w args).status = 1 := by
  obtain ⟨_, g, hr⟩ | ⟨_, _, _, g, hr⟩ | ⟨c, ds, _, _, hr⟩ := run_cases (w := w) hp
  case inl     => rw [hr]
  case inr.inl => rw [hr]
  case inr.inr =>
    rw [hr] at hs ⊢
    split at hs
    case isTrue hf => rw [if_pos hf]
    case isFalse   => exact absurd rfl hs

theorem status_congr (hp : parse args = .ok ⟨config, .report input format output failOn⟩)
    (hp' : parse args' = .ok ⟨config', .report input' format' output' failOn'⟩)
    (h : (run w' args').status = 0 ↔ (run w args).status = 0) :
    (run w' args').status = (run w args).status := by
  by_cases hs : (run w args).status = 0
  case pos => rw [h.mpr hs, hs]
  case neg => rw [status_eq_one hp hs, status_eq_one hp' (mt h.mp hs)]

-- A run succeeds if and only if all is there, the output takes the report, and the policy lets each
-- diagnostic pass that is not ignored. Where the output takes whatever is written, it does not matter how
-- the report is delivered. Nor does it matter in which order and how often the diagnostics are handed
-- over, and what a file holds that is neither the configuration nor the input.
theorem succeeds_iff_policy_passes
    (hp : parse args = .ok ⟨config, .report input format output failOn⟩) :
    ((run w args).status = 0 ↔
      ∃ c ds, w.Finds config input c ds ∧ w.Takes output (w.filed c ds format) ∧
        ∀ d ∈ ds, c.ignores d.code = false → ¬(failOn.getD c.failOn).FailsOn d) ∧
    ((run w args).status ≠ 0 → (run w args).status = 1) ∧
    (∀ colors args' format' output',
      parse args' = .ok ⟨config, .report input format' output' failOn⟩ →
      (∀ text, w.Takes output text) → (∀ text, w.Takes output' text) →
      (run { w with colors } args').status = (run w args).status) ∧
    (∀ w' args' config' input' format' output' failOn' c c' ds ds',
      parse args' = .ok ⟨config', .report input' format' output' failOn'⟩ →
      w.Finds config input c ds → w'.Finds config' input' c' ds' →
      w.Takes output (w.filed c ds format) → w'.Takes output' (w'.filed c' ds' format') →
      failOn'.getD c'.failOn = failOn.getD c.failOn → (∀ code, c'.ignores code = c.ignores code) →
      (∀ d, d ∈ ds' ↔ d ∈ ds) →
      (run w' args').status = (run w args).status) ∧
    ∀ present read path, config = some path → read path = w.read path →
      (isInput input = false → read input = w.read input) →
      run { w with present, read } args = run w args := by
  refine ⟨succeeds_iff hp, status_eq_one hp,
    fun colors args' format' output' hp' ho ho' => ?delivery,
    fun w' args' config' input' format' output' failOn' c c' ds ds' hp' hd hd' ho ho' hf hi hm => ?found,
    fun present read path hc hr hr' => ?elsewhere⟩
  case delivery =>
    have hd (c ds) : Surroundings.Finds { w with colors } config input c ds ↔
        w.Finds config input c ds :=
      ⟨fun h => h.congr rfl rfl rfl rfl, fun h => h.congr rfl rfl rfl rfl⟩
    have ht (text text' : String) :
        Surroundings.Takes { w with colors } output' text ↔ w.Takes output text' :=
      ⟨fun _ => ho text', fun _ => ho' text⟩
    refine status_congr hp hp' ?_
    rw [succeeds_iff hp, succeeds_iff hp']
    simp only [hd, ho _, ht _ "", true_and]
  case found =>
    refine status_congr hp hp' ?_
    rw [hd.status_eq_zero_iff hp ho, hd'.status_eq_zero_iff hp' ho', hf]
    simp only [hi, hm]
  case elsewhere =>
    subst hc
    have hr : ∀ p ∈ readPaths ⟨some path, .report input format output failOn⟩, read p = w.read p := by
      intro p hp
      rcases List.mem_cons.mp hp with rfl | hp
      case inl => exact hr
      case inr =>
        cases hi : isInput input
        case true  => simp [hi] at hp
        case false =>
          obtain rfl : p = input := by simpa [hi] using hp
          exact hr' hi
    have hn : some path = none → present defaultConfig = w.present defaultConfig := nofun
    simp only [run, hp, perform_read hn hr]

-- The policy on errors lets a warning pass, and a configuration that is named takes the place of one that
-- cannot be read.
theorem succeeds_iff_policy_passes_warning :
    let d : Diagnostic := .make (.unusedVariable "tmp") "a.py" ⟨5, some 4⟩
    let found (ds : List Diagnostic) := (Diagnostic.listToJson ds).compact.toUTF8
    let w (ds : List Diagnostic) : Surroundings := {
      present      := fun _ => false
      read         := fun path => if path = "empty" then .ok "".toUTF8 else .ok (found ds)
      opens        := fun _ => .ok ()
      writes       := fun _ _ => .ok ()
      leadsToInput := fun _ => false
      input        := found ds
      colors       := false
      timestamp    := "" }
    let present path := path == defaultConfig
    let read path := if path = defaultConfig then .error .isDirectory else (w [d]).read path
    let args := ["--config", "empty", "report", "--fail-on", "error", "f"]
    let args' := ["--config", "empty", "report", "--fail-on", "error", "--format", "json",
      "--output", "out", "f"]
    (run (w [d]) args).status = 0 ∧
    (run { w [d] with colors := true } args').status = (run (w [d]) args).status ∧
    (run (w [d, d]) args').status = (run (w [d]) args).status ∧
    run { w [d] with present, read } args = run (w [d]) args := by
  intro d found w present read args args'
  have hp : parse args = .ok ⟨some "empty", .report "f" none none (some .error)⟩ := rfl
  have hp' : parse args' =
      .ok ⟨some "empty", .report "f" (some .json) (some "out") (some .error)⟩ := rfl
  have hb (ds : List Diagnostic) : ((w ds).configured (some "empty")).inputBytes "f" = .ok (found ds) :=
    Surroundings.inputBytes_eq rfl
  have hd (ds : List Diagnostic) : (w ds).Finds (some "empty") "f" {} ds :=
    ⟨⟨"", rfl, Config.ofToml_empty⟩, .of_written (hb ds)⟩
  have ht (ds : List Diagnostic) (output : Option String) (text : String) : (w ds).Takes output text :=
    ⟨fun _ _ => rfl, fun _ _ => rfl⟩
  have ⟨hs, _, hr, hm, he⟩ := succeeds_iff_policy_passes (w := w [d]) hp
  refine ⟨hs.mpr ⟨{}, [d], hd [d], ht [d] none _, ?passes⟩,
    hr true args' _ _ hp' (ht [d] none) (ht [d] (some "out")),
    hm (w [d, d]) args' _ _ _ _ _ {} {} [d] [d, d] hp' (hd [d]) (hd [d, d]) (ht [d] none _)
      (ht [d, d] (some "out") _) rfl (fun _ => rfl) (by simp),
    he present read "empty" rfl rfl fun _ => rfl⟩
  case passes =>
    intro d' hd' _ hf
    cases List.mem_singleton.mp hd'
    cases hf

end Verdict

end LintReport.Command
