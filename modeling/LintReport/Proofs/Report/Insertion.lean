import LintReport.Proofs.Diagnostic.Order
import LintReport.Proofs.Report.Boundary
import LintReport.Proofs.Sorting
import LintReport.Report.Basic

namespace LintReport

@[simp]
theorem Entry.diagnostic_of (d : Diagnostic) : (Entry.of d).diagnostic = d :=
  rfl

namespace Report

def diagnostics (r : Report) : List Diagnostic :=
  r.entries.map (·.diagnostic)

def filenames (r : Report) : List String :=
  r.entries.map (·.diagnostic.filename)

def Ordered (r : Report) : Prop :=
  r.entries.Pairwise fun e₁ e₂ => e₁.diagnostic.key ≤ e₂.diagnostic.key

def upTo (r : Report) (d : Diagnostic) : List Entry :=
  r.entries.filter (·.diagnostic.key ≤ d.key)

def behind (r : Report) (d : Diagnostic) : List Entry :=
  r.entries.filter (d.key < ·.diagnostic.key)

def inserted (r : Report) (d : Diagnostic) : Report :=
  { r with
    summary := r.summary.count d (d.filename ∉ r.filenames)
    entries := insertBy (·.diagnostic.key) (.of d) r.entries }

variable {r : Report} {d : Diagnostic}

theorem mem_upTo {e : Entry} : e ∈ r.upTo d ↔ e ∈ r.entries ∧ e.diagnostic.key ≤ d.key := by
  simp [upTo]

theorem mem_behind {e : Entry} : e ∈ r.behind d ↔ e ∈ r.entries ∧ d.key < e.diagnostic.key := by
  simp [behind]

-- On entries in any order, a diagnostic that is found is there, though the search may miss it.
theorem mem_of_insert?_eq_none (h : r.insert? d = none) : d ∈ r.diagnostics := by
  simp only [insert?, ite_eq_left_iff, reduceCtorEq, imp_false, not_not, List.any_eq_true,
    decide_eq_true_eq] at h
  have ⟨e, he, hd⟩ := h
  exact List.mem_map.mpr ⟨e, List.mem_of_mem_take <| List.mem_of_mem_drop he, hd⟩

theorem eq_of_insert?_eq_some {r' : Report} (h : r.insert? d = some r') :
    ∃ place newFile, r' = { r with
      summary := r.summary.count d newFile
      entries := r.entries.take place ++ .of d :: r.entries.drop place } := by
  simp only [insert?] at h
  split at h
  case isTrue  => cases h
  case isFalse => exact ⟨_, _, (Option.some.inj h).symm⟩

open List in
theorem insert?_eq_some {r' : Report} (h : r.insert? d = some r') :
    (∃ newFile, r'.summary = r.summary.count d newFile) ∧ r'.entries ~ .of d :: r.entries := by
  have ⟨place, newFile, hr⟩ := eq_of_insert?_eq_some h
  subst hr
  refine ⟨⟨newFile, rfl⟩, perm_middle.trans ?_⟩
  rw [take_append_drop]

theorem add_eq_ok {r' : Report} {b : Bool} (h : r.add d = .ok (r', b)) :
    (r.insert? d = none ∧ r' = r ∧ b = false) ∨
    (r.insert? d = some r' ∧ r'.summary.Fits ∧ b = true) := by
  rw [add] at h
  split at h
  case h_1 hi    => cases h; exact .inl ⟨hi, rfl, rfl⟩
  case h_2 r₁ hi =>
    split at h
    case isTrue hf => cases h; exact .inr ⟨hi, hf, rfl⟩
    case isFalse   => cases h

open List in
theorem diagnostics_inserted : (r.inserted d).diagnostics ~ d :: r.diagnostics :=
  insertBy_perm.map _

theorem nodup_inserted (hn : r.diagnostics.Nodup) (hd : d ∉ r.diagnostics) :
    (r.inserted d).diagnostics.Nodup :=
  diagnostics_inserted.nodup_iff.mpr <| List.nodup_cons.mpr ⟨hd, hn⟩

namespace Ordered

theorem empty {t : String} : (Report.empty t).Ordered :=
  .nil

theorem inserted (h : r.Ordered) : (r.inserted d).Ordered :=
  insertBy_pairwise h

theorem parted_le (h : r.Ordered) (d : Diagnostic) :
    Parted (fun e => (e.diagnostic.order d).isLE) r.entries :=
  h.imp fun hle he => Diagnostic.isLE_order_iff.mpr <| hle.trans <| Diagnostic.isLE_order_iff.mp he

theorem parted_lt (h : r.Ordered) (d : Diagnostic) :
    Parted (fun e => e.diagnostic.order d = .lt) r.entries :=
  h.imp fun hle he => by
    simp only [decide_eq_true_eq, Diagnostic.order_eq_lt_iff] at he ⊢
    exact lt_of_le_of_lt hle he

theorem entries_eq (h : r.Ordered) (d : Diagnostic) : r.entries = r.upTo d ++ r.behind d := by
  rw [← (h.parted_le d).filter_append_filter_not, behind, filter_lt_eq_filter_not, upTo]
  simp [← Diagnostic.isLE_order_iff]

theorem take_length_upTo (h : r.Ordered) : r.entries.take (r.upTo d).length = r.upTo d := by
  rw [h.entries_eq d, List.take_left]

theorem drop_length_upTo (h : r.Ordered) : r.entries.drop (r.upTo d).length = r.behind d := by
  rw [h.entries_eq d, List.drop_left]

theorem boundary_eq_length (h : r.Ordered) :
    boundary (fun e => (e.diagnostic.order d).isLE) r.entries = (r.upTo d).length := by
  rw [(h.parted_le d).boundary_eq]
  simp [upTo, ← Diagnostic.isLE_order_iff]

theorem drop_boundary_upTo (h : r.Ordered) :
    (r.upTo d).drop (boundary (fun e => e.diagnostic.order d = .lt) r.entries) =
    (r.upTo d).filter fun e => !decide (e.diagnostic.order d = .lt) := by
  have hp : Parted (fun e => e.diagnostic.order d = .lt) (r.upTo d) := (h.parted_lt d).filter _
  rw [← hp.drop_boundary, hp.boundary_eq, (h.parted_lt d).boundary_eq, upTo, List.filter_filter]
  congr 2
  refine List.filter_congr fun e _ => ?_
  simp only [Diagnostic.order_eq_lt_iff, ← Bool.decide_and, decide_eq_decide]
  exact ⟨fun hl => ⟨hl, hl.le⟩, And.left⟩

theorem any_between_iff (h : r.Ordered) :
    ((r.upTo d).drop (boundary (fun e => e.diagnostic.order d = .lt) r.entries)).any
      (·.diagnostic = d) = true ↔ d ∈ r.diagnostics := by
  simp only [h.drop_boundary_upTo, List.any_eq_true, List.mem_filter, mem_upTo, diagnostics,
    List.mem_map, decide_eq_true_eq]
  constructor
  case mp  => exact fun ⟨e, he, hd⟩ => ⟨e, he.left.left, hd⟩
  case mpr =>
    intro ⟨e, he, hd⟩
    have hn : e.diagnostic.order d ≠ .lt := by simp [Diagnostic.order_eq_lt_iff, hd]
    exact ⟨e, ⟨⟨he, hd ▸ le_rfl⟩, by simpa using hn⟩, hd⟩

-- Entries of one file stand side by side, so one of them is a neighbour of the new entry.
theorem filename_mem_iff (h : r.Ordered) :
    d.filename ∈ r.filenames ↔
    (∃ e ∈ (r.upTo d).getLast?, e.diagnostic.filename = d.filename) ∨
    (∃ e ∈ (r.behind d).head?, e.diagnostic.filename = d.filename) := by
  simp only [filenames, List.mem_map]
  constructor
  case mp =>
    intro ⟨e, he, hf⟩
    by_cases hk : e.diagnostic.key ≤ d.key
    case pos =>
      have hm := mem_upTo.mpr ⟨he, hk⟩
      have hn := List.ne_nil_of_mem hm
      have hl := List.getLast_mem hn
      refine .inl ⟨_, List.getLast?_eq_some_getLast hn, ?_⟩
      exact Diagnostic.filename_eq_of_key_le ((h.filter _).rel_getLast hm) (mem_upTo.mp hl).right hf
    case neg =>
      have hm := mem_behind.mpr ⟨he, not_le.mp hk⟩
      have hn := List.ne_nil_of_mem hm
      have hd := (mem_behind.mp <| List.head_mem hn).right.le
      refine .inr ⟨_, List.head?_eq_some_head hn, ?_⟩
      exact hf ▸ Diagnostic.filename_eq_of_key_le hd ((h.filter _).rel_head hm) hf.symm
  case mpr =>
    rintro (⟨e, he, hf⟩ | ⟨e, he, hf⟩)
    · exact ⟨e, (mem_upTo.mp <| List.mem_of_getLast? he).left, hf⟩
    · exact ⟨e, (mem_behind.mp <| List.mem_of_head? he).left, hf⟩

theorem newFile_eq (h : r.Ordered) :
    let last := (r.upTo d).length
    let sameFile := holdsAt (fun e => e.diagnostic.filename = d.filename) r.entries
    (!((decide (0 < last) && sameFile (last - 1)) || sameFile last)) =
    decide (d.filename ∉ r.filenames) := by
  intro last sameFile
  have hb : sameFile last = true ↔
      ∃ e ∈ (r.behind d).head?, e.diagnostic.filename = d.filename := by
    simp only [sameFile, last]
    rw [h.entries_eq d, holdsAt_append_length]
    simp [Option.any_eq_true]
  have ha : (decide (0 < last) && sameFile (last - 1)) = true ↔
      ∃ e ∈ (r.upTo d).getLast?, e.diagnostic.filename = d.filename := by
    simp only [sameFile, last]
    rw [h.entries_eq d]
    by_cases hn : r.upTo d = []
    case pos => simp [hn]
    case neg =>
      rw [holdsAt_append_length_sub_one hn]
      simp [List.length_pos_iff.mpr hn, List.getLast?_eq_some_getLast hn]
  rw [decide_not, Bool.not_inj_iff, eq_comm, Bool.eq_iff_iff]
  simp only [decide_eq_true_eq, h.filename_mem_iff, Bool.or_eq_true, ha, hb]

theorem insert?_eq (h : r.Ordered) (d : Diagnostic) :
    r.insert? d = if d ∈ r.diagnostics then none else some (r.inserted d) := by
  simp only [insert?, h.boundary_eq_length, h.take_length_upTo, h.drop_length_upTo,
    h.any_between_iff, h.newFile_eq]
  rfl

theorem add_eq (h : r.Ordered) (d : Diagnostic) :
    r.add d =
    if d ∈ r.diagnostics then .ok (r, false)
    else if (r.inserted d).summary.Fits then .ok (r.inserted d, true)
    else .error .counter := by
  by_cases hd : d ∈ r.diagnostics
  case pos => simp only [add, h.insert?_eq, hd, if_true]
  case neg => simp only [add, h.insert?_eq, hd, if_false]

end Ordered

end Report

end LintReport
