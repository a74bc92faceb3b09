import LintReport.Config
import LintReport.Proofs.Repetition
import LintReport.Proofs.Report.Insertion

namespace LintReport.Report

def kept (ignore : List Code) (ds : List Diagnostic) : List Diagnostic :=
  (ds.filter (·.code ∉ ignore)).eraseDups

variable {t : String} {ignore : List Code} {ds : List Diagnostic} {d : Diagnostic}

theorem mem_kept : d ∈ kept ignore ds ↔ d ∈ ds ∧ d.code ∉ ignore := by
  simp [kept]

theorem kept_concat :
    kept ignore (ds ++ [d]) =
    if d.code ∈ ignore ∨ d ∈ kept ignore ds then kept ignore ds else kept ignore ds ++ [d] := by
  by_cases hi : d.code ∈ ignore <;> simp [kept, hi, eraseDups_concat]

theorem kept_nodup : (kept ignore ds).Nodup :=
  nodup_eraseDups

theorem length_kept_le : (kept ignore ds).length ≤ ds.length :=
  eraseDups_sublist.length_le.trans <| ds.length_filter_le _

theorem ofDiagnostics_concat :
    ofDiagnostics t ignore (ds ++ [d]) =
    if d.code ∈ ignore then (ofDiagnostics t ignore ds).ignoreOne
    else (ofDiagnostics t ignore ds).insert d := by
  simp [ofDiagnostics]

theorem map_diagnostic_of (ds : List Diagnostic) : (ds.map Entry.of).map (·.diagnostic) = ds := by
  simp [Function.comp_def]

theorem ordered_of_entries_eq {r : Report} (h : r.entries = (sortBy (·.key) ds).map .of) :
    r.Ordered := by
  rw [Ordered, h, List.pairwise_map]
  exact sortBy_pairwise

theorem entries_ofDiagnostics :
    (ofDiagnostics t ignore ds).entries = (sortBy (·.key) (kept ignore ds)).map .of := by
  induction ds using List.reverseRecOn
  case nil => simp [ofDiagnostics, empty, kept, sortBy]
  case append_singleton ds d ih =>
    have ho := ordered_of_entries_eq ih
    have hm : d ∈ (ofDiagnostics t ignore ds).diagnostics ↔ d ∈ kept ignore ds := by
      rw [diagnostics, ih, map_diagnostic_of, mem_sortBy]
    rw [ofDiagnostics_concat, kept_concat]
    by_cases hi : d.code ∈ ignore
    case pos => simp [hi, ignoreOne, ih]
    case neg =>
      simp only [hi, if_false, insert, ho.insert?_eq, hm, false_or]
      by_cases hk : d ∈ kept ignore ds
      case pos => simp [hk, ih]
      case neg =>
        simp only [hk, if_false, Option.getD_some, inserted, ih, sortBy_concat]
        exact insertBy_map Entry.of d _

theorem diagnostics_ofDiagnostics :
    (ofDiagnostics t ignore ds).diagnostics = sortBy (·.key) (kept ignore ds) := by
  rw [diagnostics, entries_ofDiagnostics, map_diagnostic_of]

-- A report holds its diagnostics sorted, and loses and repeats none that is kept. Where the keys are
-- equal, the diagnostics stand as they came.
theorem ofDiagnostics_sorts_firsts (timestamp : String) (config : Config) (ds : List Diagnostic) :
    let firsts := (ds.filter (!config.ignores ·.code)).eraseDups
    let r := ofDiagnostics timestamp config.ignore ds
    r.entries = (sortBy (·.key) firsts).map .of ∧
    (∀ d, d ∈ r.diagnostics ↔ d ∈ ds ∧ config.ignores d.code = false) ∧
    r.diagnostics.Nodup ∧
    (r.diagnostics.Pairwise fun d₁ d₂ => d₁.key ≤ d₂.key) ∧
    ∀ k, r.diagnostics.filter (·.key = k) = firsts.filter (·.key = k) := by
  intro firsts r
  have hf : firsts = kept config.ignore ds := by simp [firsts, kept, Config.ignores]
  have hd : r.diagnostics = sortBy (·.key) firsts := hf ▸ diagnostics_ofDiagnostics
  refine ⟨hf ▸ entries_ofDiagnostics, fun d => ?_, ?_, hd ▸ sortBy_pairwise, fun k => ?_⟩
  · simp [hd, mem_sortBy, hf, mem_kept, Config.ignores]
  · rw [hd, hf]
    exact (List.mergeSort_perm _ _).nodup_iff.mpr kept_nodup
  · rw [hd]
    convert filter_sortBy k

end LintReport.Report
