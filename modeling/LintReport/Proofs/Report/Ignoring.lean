import LintReport.Proofs.Report.Recount

namespace LintReport.Report

variable {t : String} {ignore ignore' more : List Code} {ds : List Diagnostic}

theorem kept_append : kept (ignore ++ more) ds = (kept ignore ds).filter (·.code ∉ more) := by
  rw [kept, kept, filter_eraseDups, List.filter_filter]
  congr 2
  funext d
  simp [Bool.and_comm]

theorem entries_ofDiagnostics_append :
    (ofDiagnostics t (ignore ++ more) ds).entries =
    (ofDiagnostics t ignore ds).entries.filter (·.code ∉ more) := by
  rw [entries_ofDiagnostics, entries_ofDiagnostics, kept_append, sortBy_filter, List.filter_map]
  rfl

theorem ignored_ofDiagnostics :
    (ofDiagnostics t ignore ds).summary.ignored = ds.countP (·.code ∈ ignore) := by
  rw [(Sound.ofDiagnostics t ignore ds).recounted, Summary.recount]

theorem total_ofDiagnostics :
    (ofDiagnostics t ignore ds).summary.total = (kept ignore ds).length := by
  rw [(Sound.ofDiagnostics t ignore ds).recounted, Summary.recount, entries_ofDiagnostics,
    List.length_map, sortBy, List.length_mergeSort]

theorem ofDiagnostics_congr (h : ∀ c, c ∈ ignore ↔ c ∈ ignore') :
    ofDiagnostics t ignore ds = ofDiagnostics t ignore' ds := by
  simp only [ofDiagnostics, h]

theorem length_eq_ignored_add (ignore : List Code) (ds : List Diagnostic) :
    ds.length = (ds.filter (·.code ∉ ignore)).length + ds.countP (·.code ∈ ignore) := by
  rw [← List.countP_eq_length_filter, Nat.add_comm]
  simpa using ds.length_eq_countP_add_countP (·.code ∈ ignore)

-- To ignore more codes is to remove their entries, whatever else is in the report, and all that is told of
-- the ignored diagnostics is how many there were. A list of codes matters as a set. Of what is handed
-- in, only repetitions are not accounted for.
theorem ignoring_more_removes_entries (timestamp : String) (ignore more : List Code)
    (ds : List Diagnostic) :
    let r := ofDiagnostics timestamp ignore ds
    let r' := ofDiagnostics timestamp (ignore ++ more) ds
    r'.entries = r.entries.filter (·.code ∉ more) ∧
    r'.summary.ignored = ds.countP (fun d => d.code ∈ ignore ∨ d.code ∈ more) ∧
    (∀ ignore', (∀ c, c ∈ ignore ↔ c ∈ ignore') → r = ofDiagnostics timestamp ignore' ds) ∧
    r.summary.total + r.summary.ignored ≤ ds.length ∧
    (r.summary.total + r.summary.ignored = ds.length ↔ (ds.filter (·.code ∉ ignore)).Nodup) := by
  intro r r'
  have hl := length_eq_ignored_add ignore ds
  have hr : r.summary.total + r.summary.ignored =
      (kept ignore ds).length + ds.countP (·.code ∈ ignore) := by
    rw [total_ofDiagnostics, ignored_ofDiagnostics]
  refine ⟨entries_ofDiagnostics_append, ?ignored, fun _ => ofDiagnostics_congr, ?le, ?eq⟩
  case ignored =>
    simp only [r', ignored_ofDiagnostics, List.mem_append]
  case le =>
    rw [hr, hl]
    exact Nat.add_le_add_right eraseDups_sublist.length_le _
  case eq =>
    rw [hr, hl, Nat.add_right_cancel_iff]
    exact length_eraseDups_eq_iff

theorem ignoring_more_removes_entries_repeated :
    let x : Diagnostic := .make (.undefinedName "x") "a.py" ⟨1, some 0⟩
    let y : Diagnostic := .make (.unusedImport "y") "a.py" ⟨2, some 0⟩
    let z : Diagnostic := .make (.unusedVariable "z") "a.py" ⟨3, some 0⟩
    let r := ofDiagnostics "" [.unusedVariable] [x, y, x, z]
    (∀ c, c ∈ [Code.unusedVariable] ↔ c ∈ [Code.unusedVariable, .unusedVariable]) ∧
    r = ofDiagnostics "" [.unusedVariable, .unusedVariable] [x, y, x, z] ∧
    (ofDiagnostics "" ([.unusedVariable] ++ [.unusedImport]) [x, y, x, z]).entries = [.of x] ∧
    r.summary.total + r.summary.ignored ≠ 4 := by
  intro x y z r
  have ⟨he, _, hc, _, hl⟩ :=
    ignoring_more_removes_entries "" [.unusedVariable] [.unusedImport] [x, y, x, z]
  have hm : ∀ c, c ∈ [Code.unusedVariable] ↔ c ∈ [Code.unusedVariable, .unusedVariable] := by simp
  have hk : x.key ≤ y.key := Diagnostic.isLE_order_iff.mp (by decide)
  have hr : r.entries = [.of x, .of y] := by
    have hs : sortBy (·.key) [x, y] = [x, y] := List.mergeSort_of_pairwise (by simpa using hk)
    exact entries_ofDiagnostics.trans <| congrArg (·.map Entry.of) hs
  refine ⟨hm, hc _ hm, ?_, fun h => ?_⟩
  · rw [he, hr]
    rfl
  · exact absurd (hl.mp h) (by decide)

end LintReport.Report
