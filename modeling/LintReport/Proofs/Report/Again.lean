import LintReport.Proofs.Report.Run

namespace LintReport.Report

variable {start r : Report} {n : ℕ} {t : String} {ignore : List Code} {ds : List Diagnostic}
  {ss : List Step} {answers : List Bool}

theorem kept_eq_self (hn : ds.Nodup) (hi : ∀ d ∈ ds, d.code ∉ ignore) : kept ignore ds = ds := by
  have hf : ds.filter (·.code ∉ ignore) = ds :=
    List.filter_eq_self.mpr fun d hd => decide_eq_true (hi d hd)
  rw [kept, hf, eraseDups_eq_self hn]

theorem Canonical.map_of_diagnostics (h : r.Canonical) : r.diagnostics.map .of = r.entries :=
  calc r.diagnostics.map .of
    _ = r.entries.map (Entry.of ·.diagnostic) := List.map_map
    _ = r.entries.map id                      := List.map_congr_left fun e he => (h e he).symm
    _ = r.entries                             := List.map_id _

namespace Sound

theorem entries_again (h : r.Sound n) (hi : ∀ d ∈ r.diagnostics, d.code ∉ ignore) :
    (Report.ofDiagnostics t ignore r.diagnostics).entries = r.entries := by
  have ho : r.diagnostics.Pairwise fun d₁ d₂ => d₁.key ≤ d₂.key := List.pairwise_map.mpr h.ordered
  rw [entries_ofDiagnostics, kept_eq_self h.nodup hi, sortBy_eq_self ho, h.canonical.map_of_diagnostics]

theorem summary_again (h : r.Sound n) (hi : ∀ d ∈ r.diagnostics, d.code ∉ ignore) :
    (Report.ofDiagnostics t ignore r.diagnostics).summary = { r.summary with ignored := 0 } := by
  have hn : r.diagnostics.countP (·.code ∈ ignore) = 0 :=
    List.countP_eq_zero.mpr fun d hd => by simpa using hi d hd
  rw [(Sound.ofDiagnostics t ignore r.diagnostics).recounted, h.entries_again hi, hn, h.recounted]
  rfl

end Sound

-- Whatever additions a report has come from, its diagnostics are read back from what is written of them, and
-- if none of them is ignored, they lead to the same entries and counts.
theorem reported_again (h : Start start n) (hr : start.run ss = .ok (r, answers)) (timestamp : String)
    (config : Config) (hc : ∀ d ∈ r.diagnostics, config.ignores d.code = false) :
    let written := Diagnostic.listToJson r.diagnostics
    ∀ text ∈ [written.compact, written.pretty],
      ∃ ds, Json.decode Diagnostic.listReader text = .ok ds ∧
        let again := ofDiagnostics timestamp config.ignore ds
        again.entries = r.entries ∧ again.summary = { r.summary with ignored := 0 } := by
  intro written text ht
  have hs : r.Sound n := (h.storable.run hr).sound
  have hi : ∀ d ∈ r.diagnostics, d.code ∉ config.ignore := by simpa [Config.ignores] using hc
  refine ⟨r.diagnostics, ?read, hs.entries_again hi, hs.summary_again hi⟩
  case read =>
    simp only [List.mem_cons, List.not_mem_nil, or_false] at ht
    obtain rfl | rfl := ht
    · exact (Diagnostic.decode_list r.diagnostics).left
    · exact (Diagnostic.decode_list r.diagnostics).right

theorem reported_again_swapped :
    let d : Diagnostic := .make (.undefinedName "x") "a.py" ⟨1, some 0⟩
    let x : Diagnostic := .make (.unusedVariable "x") "a.py" ⟨2, some 0⟩
    let y : Diagnostic := .make (.unusedVariable "y") "a.py" ⟨3, some 0⟩
    let start := ofDiagnostics "" { ignore := [.undefinedName] : Config }.ignore [d]
    let r := (start.inserted y).inserted x
    Start start 1 ∧ start.run [.add y, .add x] = .ok (r, [true, true]) ∧
    (∀ d ∈ r.diagnostics, Config.ignores {} d.code = false) ∧
    r.summary.ignored = 1 ∧
    ∃ ds, Json.decode Diagnostic.listReader (Diagnostic.listToJson r.diagnostics).compact = .ok ds ∧
      (ofDiagnostics "" [] ds).entries = r.entries ∧
      (ofDiagnostics "" [] ds).summary = { r.summary with ignored := 0 } := by
  intro d x y start r
  have h : Start start 1 := .ofDiagnostics "" { ignore := [.undefinedName] } [d] (by decide)
  have ho := h.storable.sound.ordered
  have h₁ : start.step (.add y) = .ok (start.inserted y, [true]) := by
    rw [step, ho.add_eq, if_neg (by decide), if_pos (by decide)]
    rfl
  have h₂ : (start.inserted y).step (.add x) = .ok (r, [true]) := by
    rw [step, ho.inserted.add_eq, if_neg (by decide), if_pos (by decide)]
    rfl
  have hr : start.run [.add y, .add x] = .ok (r, [true, true]) := run_cons h₁ <| run_cons h₂ rfl
  have hc : ∀ d ∈ r.diagnostics, Config.ignores {} d.code = false := fun _ _ => rfl
  exact ⟨h, hr, hc, rfl, reported_again h hr "" {} hc _ List.mem_cons_self⟩

end LintReport.Report
