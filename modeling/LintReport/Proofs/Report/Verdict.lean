import LintReport.Proofs.Report.Recount

namespace LintReport

theorem Code.score_of_error {c : Code} :
    c.traits.severity = .error → c.traits.score = Severity.maxScore := by
  cases c <;> decide

namespace FailPolicy

def FailsOn : FailPolicy → Diagnostic → Prop
  | never,  _ => False
  | error,  d => d.severity = .error
  | severe, d => 1 < d.score
  | any,    _ => True

theorem FailsOn.severe {d : Diagnostic} (h : error.FailsOn d) : severe.FailsOn d := by
  have hs : d.score = Severity.maxScore := Code.score_of_error h
  rw [FailsOn, hs]
  decide

end FailPolicy

namespace Report

variable {r : Report} {n : ℕ} {p : FailPolicy}

theorem Canonical.exists_entry_iff (h : r.Canonical) {q : Entry → Prop} :
    (∃ e ∈ r.entries, q e) ↔ ∃ d ∈ r.diagnostics, q (.of d) := by
  simp only [diagnostics, List.mem_map, exists_exists_and_eq_and]
  exact exists_congr fun e => and_congr_right fun he => by rw [← h e he]

theorem Canonical.fails_iff (h : r.Canonical) (hr : r.summary = .recount n r.entries) :
    r.fails p = true ↔ ∃ d ∈ r.diagnostics, p.FailsOn d := by
  cases p
  case never  => simp [fails, FailPolicy.FailsOn]
  case error  =>
    simp only [fails, hasErrors, hr, Summary.recount, decide_eq_true_eq, List.countP_pos_iff,
      h.exists_entry_iff]
    rfl
  case severe =>
    simp only [fails, hasSevere, hr, Summary.recount, decide_eq_true_eq, List.countP_pos_iff,
      h.exists_entry_iff]
    rfl
  case any    =>
    simp [fails, hr, Summary.recount, FailPolicy.FailsOn, diagnostics, List.length_pos_iff_exists_mem]

theorem ofDiagnostics_fails_iff {t : String} {ignore : List Code} {ds : List Diagnostic} :
    (ofDiagnostics t ignore ds).fails p = true ↔ ∃ d ∈ ds, d.code ∉ ignore ∧ p.FailsOn d := by
  have h := Sound.ofDiagnostics t ignore ds
  simp only [h.canonical.fails_iff h.recounted, diagnostics_ofDiagnostics, mem_sortBy, mem_kept,
    and_assoc]

-- A report fails if and only if a diagnostic that is not ignored fails it. So stricter policies fail
-- where the others do, more diagnostics keep a failure, and a longer list of ignored codes never
-- brings one about.
theorem fails_iff_exists_failing (timestamp : String) (config : Config) (ds : List Diagnostic) :
    let r := ofDiagnostics timestamp config.ignore ds
    (∀ p : FailPolicy, r.fails p = true ↔
      ∃ d ∈ ds, config.ignores d.code = false ∧ p.FailsOn d) ∧
    (r.fails .error = true → r.fails .severe = true) ∧
    (r.fails .severe = true → r.fails .any = true) ∧
    (∀ (p : FailPolicy) (t : String) (more : List Diagnostic), r.fails p = true →
      (ofDiagnostics t config.ignore (ds ++ more)).fails p = true) ∧
    ∀ (p : FailPolicy) (t : String) (config' : Config), config.ignore ⊆ config'.ignore →
      r.fails p = false → (ofDiagnostics t config'.ignore ds).fails p = false := by
  intro r
  have hr (p : FailPolicy) : r.fails p = true ↔ ∃ d ∈ ds, d.code ∉ config.ignore ∧ p.FailsOn d :=
    ofDiagnostics_fails_iff
  refine ⟨fun p => ?exact, ?severe, ?any, fun p t more h => ?append, fun p t config' hi h => ?ignore⟩
  case exact => simp [hr, Config.ignores]
  case severe =>
    intro h
    obtain ⟨d, hd, hc, he⟩ := (hr .error).mp h
    exact (hr .severe).mpr ⟨d, hd, hc, he.severe⟩
  case any =>
    intro h
    obtain ⟨d, hd, hc, _⟩ := (hr .severe).mp h
    exact (hr .any).mpr ⟨d, hd, hc, trivial⟩
  case append =>
    obtain ⟨d, hd, hc, hp⟩ := (hr p).mp h
    exact ofDiagnostics_fails_iff.mpr ⟨d, List.mem_append_left more hd, hc, hp⟩
  case ignore =>
    rw [← Bool.not_eq_true, ofDiagnostics_fails_iff]
    rintro ⟨d, hd, hc, hp⟩
    have hf := (hr p).mpr ⟨d, hd, fun hm => hc (hi hm), hp⟩
    exact Bool.noConfusion (h.symm.trans hf)

theorem fails_iff_exists_failing_warning :
    let d : Diagnostic := .make (.unusedVariable "tmp") "a.py" ⟨5, some 4⟩
    let r := ofDiagnostics "" { : Config }.ignore [d]
    r.fails .severe = true ∧ r.fails .error = false ∧ r.fails .any = true ∧
    (ofDiagnostics "" { : Config }.ignore ([d] ++ [d])).fails .severe = true ∧
    (ofDiagnostics "" { ignore := [.unusedVariable] : Config }.ignore [d]).fails .error = false := by
  intro d r
  have ⟨hr, _, ha, hm, hi⟩ := fails_iff_exists_failing "" {} [d]
  have hs : r.fails .severe = true :=
    (hr .severe).mpr ⟨d, List.mem_singleton_self d, rfl, (by decide : 1 < 3)⟩
  have he : r.fails .error = false := by
    rw [← Bool.not_eq_true, hr]
    intro ⟨d', hd, _, hp⟩
    cases List.mem_singleton.mp hd
    cases hp
  exact ⟨hs, he, ha hs, hm .severe "" [d] hs,
    hi .error "" { ignore := [.unusedVariable] } (List.nil_subset _) he⟩

end Report

end LintReport
