import LintReport.Proofs.Report.Recount
import LintReport.Report.Run

namespace LintReport.Report

-- The reports that runs start from, and how many diagnostics were ignored for them. A sequence is no
-- longer than a word can say.
inductive Start : Report → ℕ → Prop
  | empty (timestamp : String) : Start (.empty timestamp) 0
  | ofDiagnostics (timestamp : String) (config : Config) (ds : List Diagnostic)
    (h : ds.length < Summary.limit) :
    Start (ofDiagnostics timestamp config.ignore ds) (ds.countP (config.ignores ·.code))

-- Each entry is the one of its diagnostic, and the counts are words, so that the report can be stored and
-- loaded.
structure Restorable (r : Report) : Prop where
  canonical : r.Canonical
  fits      : r.summary.Fits

structure Storable (r : Report) (ignored : ℕ) : Prop where
  sound : r.Sound ignored
  fits  : r.summary.Fits

variable {r r' : Report} {n : ℕ} {d : Diagnostic} {b : Bool} {s : Step} {ss ss' : List Step}
  {answers : List Bool}

theorem fits_ofDiagnostics {t : String} {ignore : List Code} {ds : List Diagnostic}
    (h : ds.length < Summary.limit) : (ofDiagnostics t ignore ds).summary.Fits := by
  rw [(Sound.ofDiagnostics t ignore ds).recounted]
  have he : (ofDiagnostics t ignore ds).entries.length ≤ ds.length := by
    rw [entries_ofDiagnostics, List.length_map, sortBy, List.length_mergeSort]
    exact length_kept_le
  exact Summary.recount_fits (he.trans_lt h) (List.countP_le_length.trans_lt h)

theorem Start.storable (h : Start r n) : r.Storable n := by
  cases h
  case empty t                     => exact ⟨.empty t, (by decide : Summary.Fits {})⟩
  case ofDiagnostics t config ds h => exact ⟨.ofDiagnostics t config.ignore ds, fits_ofDiagnostics h⟩

theorem Canonical.add (h : r.Canonical) (ha : r.add d = .ok (r', b)) : r'.Canonical := by
  obtain ⟨_, rfl, _⟩ | ⟨hi, _, _⟩ := add_eq_ok ha
  case inl => exact h
  case inr =>
    intro e he
    obtain rfl | he := List.mem_cons.mp <| (insert?_eq_some hi).right.mem_iff.mp he
    · rfl
    · exact h e he

namespace Restorable

theorem load_stored (h : r.Restorable) : load r.stored = .ok r :=
  h.canonical.load_stored h.fits

theorem step_reload (h : r.Restorable) : r.step .reload = .ok (r, []) := by
  rw [step, h.load_stored]
  rfl

theorem add (h : r.Restorable) (ha : r.add d = .ok (r', b)) : r'.Restorable := by
  obtain ⟨_, rfl, _⟩ | ⟨_, hf, _⟩ := add_eq_ok ha
  case inl => exact h
  case inr => exact ⟨h.canonical.add ha, hf⟩

theorem step_eq_ok (h : r.Restorable) (hs : r.step s = .ok (r', answers)) :
    r' = r ∨ ∃ d b, r.add d = .ok (r', b) := by
  cases s
  case reload =>
    rw [h.step_reload] at hs
    cases hs
    exact .inl rfl
  case add d =>
    have ⟨⟨_, b⟩, ha, he⟩ := bind_eq_ok_iff.mp hs
    cases he
    exact .inr ⟨d, b, mapError_eq_ok_iff.mp ha⟩

theorem step (h : r.Restorable) (hs : r.step s = .ok (r', answers)) : r'.Restorable := by
  obtain rfl | ⟨_, _, ha⟩ := h.step_eq_ok hs
  · exact h
  · exact h.add ha

theorem run {P : Report → Prop}
    (hp : ∀ {r r' : Report} {d : Diagnostic} {b : Bool}, P r → r.add d = .ok (r', b) → P r')
    (h : r.Restorable) (hr : r.run ss = .ok (r', answers)) (h₀ : P r) : r'.Restorable ∧ P r' := by
  induction ss generalizing r answers
  case nil => cases hr; exact ⟨h, h₀⟩
  case cons s ss ih =>
    have ⟨⟨_, _⟩, hs, hb⟩ := bind_eq_ok_iff.mp hr
    have ⟨⟨_, _⟩, ht, he⟩ := bind_eq_ok_iff.mp hb
    cases he
    refine ih (h.step hs) ht ?_
    obtain rfl | ⟨_, _, ha⟩ := h.step_eq_ok hs
    · exact h₀
    · exact hp h₀ ha

end Restorable

namespace Storable

theorem restorable (h : r.Storable n) : r.Restorable :=
  ⟨h.sound.canonical, h.fits⟩

theorem load_stored (h : r.Storable n) : load r.stored = .ok r :=
  h.restorable.load_stored

theorem step_reload (h : r.Storable n) : r.step .reload = .ok (r, []) :=
  h.restorable.step_reload

theorem step (h : r.Storable n) (hs : r.step s = .ok (r', answers)) : r'.Storable n := by
  obtain rfl | ⟨_, _, ha⟩ := h.restorable.step_eq_ok hs
  · exact h
  · exact ⟨h.sound.add ha, (h.restorable.add ha).fits⟩

theorem run (h : r.Storable n) (hr : r.run ss = .ok (r', answers)) : r'.Storable n :=
  have ⟨hr, hs⟩ := h.restorable.run Sound.add hr h.sound
  ⟨hs, hr.fits⟩

end Storable

theorem run_cons {r₁ : Report} {rest : List Bool} (hs : r.step s = .ok (r₁, answers))
    (hr : r₁.run ss = .ok (r', rest)) : r.run (s :: ss) = .ok (r', answers ++ rest) := by
  simp only [run, hs, hr, ok_bind]
  rfl

theorem run_append :
    r.run (ss ++ ss') = (do
      let (r, answers) ← r.run ss
      let (r, rest) ← r.run ss'
      return (r, answers ++ rest)) := by
  induction ss generalizing r
  case nil          => simp [run]
  case cons s ss ih => simp [run, ih]

theorem Storable.run_reload (h : r.Storable n) (ss ss' : List Step) :
    r.run (ss ++ .reload :: ss') = r.run (ss ++ ss') := by
  rw [run_append, run_append]
  cases hr : r.run ss
  case error => simp only [error_bind]
  case ok x  => simp [(h.run hr).step_reload, Report.run]

-- However additions and reloads follow each other, the summary is a recount of the entries, and the
-- entries about one file are not parted by others.
theorem run_recounts {start : Report} (h : Start start n) (hr : start.run ss = .ok (r, answers)) :
    r.summary = .recount n r.entries ∧
    r.summary.errors + r.summary.warnings = r.summary.total ∧
    ∀ f, r.entries.filter (·.diagnostic.filename = f) <:+: r.entries := by
  have hs := (h.storable.run hr).sound
  refine ⟨hs.recounted, ?_, hs.ordered.filter_isInfix⟩
  rw [hs.recounted]
  exact Summary.recount_errors_add_warnings n r.entries

theorem run_recounts_repeated :
    let d : Diagnostic := .make (.undefinedName "x") "a.py" ⟨1, some 0⟩
    let start := ofDiagnostics "" { ignore := [.undefinedName] : Config }.ignore [d]
    let r : Report := { start with summary := ⟨1, 1, 0, 1, 1, 1⟩, entries := [.of d] }
    Start start 1 ∧ start.run [.add d, .reload, .add d] = .ok (r, [true, false]) ∧
    r.summary = .recount 1 r.entries ∧
    r.summary.errors + r.summary.warnings = r.summary.total ∧
    ∀ f, r.entries.filter (·.diagnostic.filename = f) <:+: r.entries := by
  intro d start r
  have h : Start start 1 := .ofDiagnostics "" { ignore := [.undefinedName] } [d] (by decide)
  have hi : start.insert? d = some r := (h.storable.sound.ordered.insert?_eq d).trans rfl
  have h₁ : start.step (.add d) = .ok (r, [true]) := by rw [step, add, hi]; rfl
  have hs := h.storable.step h₁
  have hn : r.insert? d = none := (hs.sound.ordered.insert?_eq d).trans rfl
  have h₂ : r.step (.add d) = .ok (r, [false]) := by simp [step, add, hn]
  have hr : start.run [.add d, .reload, .add d] = .ok (r, [true, false]) :=
    run_cons h₁ <| run_cons hs.step_reload <| run_cons h₂ rfl
  exact ⟨h, hr, run_recounts h hr⟩

end LintReport.Report
