import LintReport.Proofs.Report.Insertion
import LintReport.Proofs.Report.Json

namespace LintReport.Report

variable {r r' : Report} {d : Diagnostic}

-- The report has one entry more, that of the diagnostic, and has counted it.
structure Gains (r : Report) (d : Diagnostic) (r' : Report) : Prop where
  entries   : ∃ before after, r.entries = before ++ after ∧ r'.entries = before ++ .of d :: after
  total     : r'.summary.total = r.summary.total + 1
  severity  :
    d.severity = .error ∧ r'.summary.errors = r.summary.errors + 1 ∧
      r'.summary.warnings = r.summary.warnings ∨
    d.severity = .warning ∧ r'.summary.errors = r.summary.errors ∧
      r'.summary.warnings = r.summary.warnings + 1
  severe    : r'.summary.severe = r.summary.severe + if d.isSevere then 1 else 0
  files     : r'.summary.files = r.summary.files ∨ r'.summary.files = r.summary.files + 1
  ignored   : r'.summary.ignored = r.summary.ignored
  version   : r'.version = r.version
  timestamp : r'.timestamp = r.timestamp

theorem gains_of_insert?_eq_some (h : r.insert? d = some r') : r.Gains d r' := by
  have ⟨_, newFile, hr⟩ := eq_of_insert?_eq_some h
  subst hr
  refine {
    entries := ⟨_, _, (List.take_append_drop _ _).symm, rfl⟩
    total := rfl, severity := ?severity, severe := rfl, files := ?files
    ignored := rfl, version := rfl, timestamp := rfl }
  case severity => cases hs : d.severity <;> simp [Summary.count, hs]
  case files    => cases newFile <;> simp [Summary.count]

theorem first_le_last (r : Report) (d : Diagnostic) :
    boundary (fun e => e.diagnostic.order d = .lt) r.entries ≤
    boundary (fun e => (e.diagnostic.order d).isLE) r.entries := by
  refine boundary_le_boundary fun e he => ?_
  rw [decide_eq_true_eq] at he
  rw [he]
  rfl

-- Nothing is supposed of the order of the entries, nor of the counts. The part of the entries that is
-- looked through is there, and so is the place where an entry is put.
theorem addition_in_any_order (r : Report) (d : Diagnostic) :
    let first := boundary (fun e => e.diagnostic.order d = .lt) r.entries
    let last := boundary (fun e => (e.diagnostic.order d).isLE) r.entries
    first ≤ last ∧ last ≤ r.entries.length ∧
    ((r.insert? d = none ∧ d ∈ r.diagnostics ∧ r.add d = .ok (r, false)) ∨
      ∃ r', r.insert? d = some r' ∧ r.Gains d r' ∧
        r.add d = if r'.summary.Fits then .ok (r', true) else .error .counter) := by
  intro first last
  refine ⟨r.first_le_last d, boundary_le_length, ?_⟩
  cases hi : r.insert? d
  case none    => exact .inl ⟨rfl, mem_of_insert?_eq_none hi, by rw [add, hi]⟩
  case some r' => exact .inr ⟨r', rfl, gains_of_insert?_eq_some hi, by rw [add, hi]⟩

namespace Ordered

theorem add_eq_false_iff (h : r.Ordered) : r.add d = .ok (r', false) ↔ d ∈ r.diagnostics ∧ r' = r := by
  rw [h.add_eq]
  by_cases hd : d ∈ r.diagnostics
  case pos => simp [hd, eq_comm]
  case neg => simp only [hd, if_false]; split <;> simp

theorem add_of_mem (h : r.Ordered) (hd : d ∈ r.diagnostics) : r.add d = .ok (r, false) :=
  h.add_eq_false_iff.mpr ⟨hd, rfl⟩

theorem add_inserted (h : r.Ordered) (d : Diagnostic) :
    (r.inserted d).add d = .ok (r.inserted d, false) :=
  h.inserted.add_of_mem <| diagnostics_inserted.mem_iff.mpr List.mem_cons_self

theorem exists_inserted_eq (h : r.Ordered) (d : Diagnostic) :
    ∃ before after, r.entries = before ++ after ∧ (r.inserted d).entries = before ++ .of d :: after ∧
      (∀ e ∈ before, e.diagnostic.key ≤ d.key) ∧ ∀ e ∈ after, d.key < e.diagnostic.key :=
  ⟨r.upTo d, r.behind d, h.entries_eq d, rfl, fun _ he => (mem_upTo.mp he).right,
    fun _ he => (mem_behind.mp he).right⟩

end Ordered

-- Where the entries are in order and none is repeated, a diagnostic is refused if and only if it is there,
-- anywhere. Each other one is taken, as long as no count that grows is the greatest word already, and
-- then its entry stands behind all that do not come after it. The order is kept, and so is that nothing
-- is repeated.
theorem addition_in_order (ho : r.Ordered) (hn : r.diagnostics.Nodup) (d : Diagnostic) :
    let counted := r.summary.count d (d.filename ∉ r.filenames)
    (∀ r', r.add d = .ok (r', false) ↔ d ∈ r.diagnostics ∧ r' = r) ∧
    (d ∉ r.diagnostics → ¬counted.Fits → r.add d = .error .counter) ∧
    (d ∉ r.diagnostics → counted.Fits → ∃ r', r.add d = .ok (r', true) ∧
      (∃ before after, r.entries = before ++ after ∧ r'.entries = before ++ .of d :: after ∧
        (∀ e ∈ before, e.diagnostic.key ≤ d.key) ∧ ∀ e ∈ after, d.key < e.diagnostic.key) ∧
      r'.Ordered ∧ r'.diagnostics.Nodup ∧
      r'.summary.files = r.summary.files + (if d.filename ∈ r.filenames then 0 else 1) ∧
      r'.add d = .ok (r', false)) := by
  intro counted
  have ha := ho.add_eq d
  refine ⟨fun r' => ho.add_eq_false_iff, fun hd hf => ?full, fun hd hf => ?taken⟩
  case full  => rw [ha, if_neg hd]; exact if_neg hf
  case taken =>
    rw [if_neg hd] at ha
    refine ⟨r.inserted d, ha.trans (if_pos hf), ho.exists_inserted_eq d, ho.inserted,
      nodup_inserted hn hd, ?files, ho.add_inserted d⟩
    case files => by_cases hm : d.filename ∈ r.filenames <;> simp [inserted, Summary.count, hm]

theorem addition_in_order_between :
    let x : Diagnostic := .make (.undefinedName "x") "a.py" ⟨1, some 0⟩
    let y : Diagnostic := .make (.undefinedName "y") "a.py" ⟨1, some 0⟩
    let z : Diagnostic := .make (.undefinedName "x") "b.py" ⟨1, some 0⟩
    let r : Report := ⟨.current, "", ⟨2, 2, 0, 2, 2, 0⟩, [.of x, .of z]⟩
    let full : Report := { r with summary := { total := Summary.limit - 1 } }
    r.Ordered ∧ r.diagnostics.Nodup ∧ y ∉ r.diagnostics ∧
    (r.summary.count y (y.filename ∉ r.filenames)).Fits ∧
    r.add z = .ok (r, false) ∧
    (∃ r', r.add y = .ok (r', true) ∧ r'.summary.files = 2 ∧ r'.add y = .ok (r', false)) ∧
    full.add y = .error .counter := by
  intro x y z r full
  have hk : x.key ≤ z.key := Diagnostic.isLE_order_iff.mp (by decide)
  have ho : r.Ordered := by simpa [Ordered, r] using hk
  have hn : r.diagnostics.Nodup := by decide
  have hy : y ∉ r.diagnostics := by decide
  have hf : (r.summary.count y (y.filename ∉ r.filenames)).Fits := by decide
  have ⟨hp, _, ht⟩ := addition_in_order ho hn y
  have ⟨_, hfull, _⟩ := addition_in_order (r := full) ho hn y
  have ⟨r', ha, _, _, _, hc, hr⟩ := ht hy hf
  exact ⟨ho, hn, hy, hf, ((addition_in_order ho hn z).left r).mpr ⟨by decide, rfl⟩,
    ⟨r', ha, hc.trans (by decide), hr⟩, hfull hy (by decide)⟩

-- A text may say that the count of files is the greatest word. No diagnostic can be added to such a report
-- if it is about a new file.
theorem addition_overflows :
    let d : Diagnostic := .make (.undefinedName "x") "a.py" ⟨1, some 0⟩
    let r : Report := ⟨.current, "", { files := Summary.limit - 1 }, []⟩
    load r.stored = .ok r ∧ r.Ordered ∧ r.diagnostics.Nodup ∧ d ∉ r.diagnostics ∧
    r.add d = .error .counter ∧ ∀ r' b, r.add d ≠ .ok (r', b) := by
  intro d r
  have hc : r.Canonical := fun _ he => absurd he List.not_mem_nil
  have ho : r.Ordered := .nil
  have hd : d ∉ r.diagnostics := List.not_mem_nil
  have ha : r.add d = .error .counter := by rw [ho.add_eq, if_neg hd, if_neg (by decide)]
  have hf : Summary.Fits { files := Summary.limit - 1 } := by decide
  refine ⟨hc.load_stored hf, ho, .nil, hd, ha, fun r' b h => ?_⟩
  rw [ha] at h
  cases h

end LintReport.Report
