import LintReport.Proofs.Report.Loading
import LintReport.Proofs.Report.Verdict

namespace LintReport.Report

-- The counts are those of the entries, except perhaps the count of files.
def Tallied (r : Report) : Prop :=
  ∃ n files, r.summary = { Summary.recount n r.entries with files }

variable {start r r' : Report} {d : Diagnostic} {b : Bool} {n : ℕ} {ss : List Step}
  {answers : List Bool} {text : String}

namespace Tallied

theorem add (h : r.Tallied) (ha : r.add d = .ok (r', b)) : r'.Tallied := by
  obtain ⟨_, rfl, _⟩ | ⟨hi, _⟩ := add_eq_ok ha
  case inl => exact h
  case inr =>
    have ⟨n, files, hs⟩ := h
    have ⟨⟨newFile, hc⟩, he⟩ := insert?_eq_some hi
    refine ⟨n, files + if newFile then 1 else 0, ?_⟩
    rw [hc, hs, Summary.recount_perm he, Summary.recount_cons_of]
    rfl

theorem fails_iff {p : FailPolicy} (h : r.Tallied) (hc : r.Canonical) :
    r.fails p = true ↔ ∃ d ∈ r.diagnostics, p.FailsOn d := by
  have ⟨n, files, hs⟩ := h
  let r₀ : Report := { r with summary := .recount n r.entries }
  have hf : r.fails p = r₀.fails p := by
    cases p <;> simp only [fails, hasErrors, hasSevere, hs, r₀]
  have hc : r₀.Canonical := hc
  rw [hf]
  exact hc.fails_iff rfl

end Tallied

namespace Ordered

theorem add (h : r.Ordered) (ha : r.add d = .ok (r', b)) : r'.Ordered := by
  obtain ⟨_, rfl, _⟩ | ⟨_, rfl, _⟩ := h.add_eq_ok ha
  · exact h
  · exact h.inserted

theorem exists_add_eq_false_iff (h : r.Ordered) :
    (∃ r', r.add d = .ok (r', false)) ↔ d ∈ r.diagnostics := by
  constructor
  case mp =>
    intro ⟨r', ha⟩
    obtain ⟨hi, _⟩ | ⟨_, _, hb⟩ := Report.add_eq_ok ha
    · exact mem_of_insert?_eq_none hi
    · cases hb
  case mpr =>
    intro hd
    exact ⟨r, by rw [Report.add, h.insert?_eq, if_pos hd]⟩

end Ordered

-- Every report with the entries of its diagnostics and with words as counts is loaded from some text, for
-- neither order nor repetitions nor what is counted are looked at.
-- In every run from a loaded report, whatever its text said, a diagnostic that is refused is there already.
-- If the text had counted its entries, the verdicts are those of the diagnostics. If it had its entries in
-- order, a diagnostic that is there is refused. And if it had all that holds of reports that were built by
-- adding diagnostics, this goes on to hold.
theorem loads_as_written (hl : load text = .ok start) (hr : start.run ss = .ok (r, answers)) :
    (∀ r' : Report, (∃ text', load text' = .ok r') ↔ r'.Restorable) ∧
    (∀ d r', r.add d = .ok (r', false) → d ∈ r.diagnostics ∧ r' = r) ∧
    (start.Tallied → r.Tallied ∧ ∀ p, r.fails p = true ↔ ∃ d ∈ r.diagnostics, p.FailsOn d) ∧
    (start.Ordered →
      r.Ordered ∧ ∀ d, (∃ r', r.add d = .ok (r', false)) ↔ d ∈ r.diagnostics) ∧
    ∀ n, start.Sound n → r.Sound n := by
  have h := restorable_of_load hl
  refine ⟨fun r' => ⟨fun ⟨_, h⟩ => restorable_of_load h, fun h => ⟨r'.stored, h.load_stored⟩⟩,
    fun d r' ha => ?refused, fun ht => ?tallied, fun ho => ?ordered, fun n hs => ?sound⟩
  case refused =>
    obtain ⟨hi, rfl, _⟩ | ⟨_, _, hb⟩ := add_eq_ok ha
    · exact ⟨mem_of_insert?_eq_none hi, rfl⟩
    · cases hb
  case tallied =>
    have ⟨hc, ht⟩ := h.run Tallied.add hr ht
    exact ⟨ht, fun _ => ht.fails_iff hc.canonical⟩
  case ordered =>
    have ⟨_, ho⟩ := h.run Ordered.add hr ho
    exact ⟨ho, fun _ => ho.exists_add_eq_false_iff⟩
  case sound =>
    exact (Storable.run ⟨hs, h.fits⟩ hr).sound

-- A report that was put together by hand, in order and with its counts, except that it counts one file
-- too many.
theorem loads_as_written_miscounted :
    let a : Diagnostic := .make (.undefinedName "x") "a.py" ⟨1, some 0⟩
    let b : Diagnostic := .make (.undefinedName "x") "b.py" ⟨1, some 0⟩
    let r : Report := ⟨.current, "", ⟨2, 2, 0, 2, 3, 0⟩, [.of a, .of b]⟩
    load r.stored = .ok r ∧ r.fails .error = true ∧ ∃ r', r.add b = .ok (r', false) := by
  intro a b r
  have hc : r.Canonical := by simp [Canonical, r, Entry.of]
  have hl : load r.stored = .ok r := hc.load_stored (by decide : Summary.Fits ⟨2, 2, 0, 2, 3, 0⟩)
  have ht : r.Tallied := ⟨0, 3, rfl⟩
  have hk : a.key ≤ b.key := Diagnostic.isLE_order_iff.mp (by decide)
  have ho : r.Ordered := by simpa [Ordered, r] using hk
  obtain ⟨_, _, htallied, hordered, _⟩ := loads_as_written hl (rfl : r.run [] = .ok (r, []))
  exact ⟨hl, ((htallied ht).right .error).mpr ⟨a, by simp [diagnostics, r], rfl⟩,
    ((hordered ho).right b).mpr <| by simp [diagnostics, r]⟩

-- Two entries of one diagnostic behind one that comes after them, with nothing counted, are loaded as
-- well. Such a report fails by no policy, and it takes what it has already.
theorem loads_unordered :
    let a : Diagnostic := .make (.undefinedName "x") "a.py" ⟨1, some 0⟩
    let b : Diagnostic := .make (.undefinedName "x") "b.py" ⟨1, some 0⟩
    let r : Report := ⟨.current, "", {}, [.of b, .of a, .of a]⟩
    load r.stored = .ok r ∧ ¬r.Ordered ∧ ¬r.diagnostics.Nodup ∧
    (∀ n, r.summary ≠ .recount n r.entries) ∧
    (∀ p : FailPolicy, r.fails p = false) ∧ (∃ d ∈ r.diagnostics, FailPolicy.error.FailsOn d) ∧
    b ∈ r.diagnostics ∧ ∃ r', r.add b = .ok (r', true) := by
  intro a b r
  have hc : r.Canonical := by simp [Canonical, r, Entry.of]
  have hb : b ∈ r.diagnostics := by simp [diagnostics, r]
  refine ⟨hc.load_stored (by decide : Summary.Fits {}), ?order, ?nodup, ?counts, ?passes,
    ⟨b, hb, rfl⟩, hb, ?taken⟩
  case order =>
    intro h
    have hk : b.key ≤ a.key := List.rel_of_pairwise_cons h (List.mem_cons_self : Entry.of a ∈ _)
    exact absurd (Diagnostic.isLE_order_iff.mpr hk) (by decide)
  case nodup => simp [diagnostics, r]
  case counts =>
    intro n h
    cases congrArg Summary.total h
  case passes => intro p; cases p <;> rfl
  case taken =>
    let r' : Report := { r with summary := ⟨1, 1, 0, 1, 1, 0⟩, entries := r.entries ++ [.of b] }
    have hi : r.insert? b = some r' := by decide +kernel
    have ha : r.add b = .ok (r', true) := by rw [add, hi]; rfl
    exact ⟨r', ha⟩

end LintReport.Report
