import LintReport.Proofs.Json.Scan
import LintReport.Proofs.Json.Unread
import LintReport.Proofs.Json.Yields
import LintReport.Proofs.Report.Run

namespace LintReport

open Json (Reader Record RecordField Source Chars Place IsOther)

namespace Entry

theorem reader_yields : reader.Yields fun e => e = .of e.diagnostic := by
  refine Record.yields (P := fun _ => True) trivial (fun _ _ _ _ _ _ _ _ => trivial) ?_
  intro s e _ h
  cases hd : s.diagnostic
  case none   => simp only [record, hd] at h; cases h
  case some d => simp only [record, hd] at h; cases h; rfl

end Entry

namespace Summary

def Slots.Fit (s : Slots) : Prop :=
  ∀ n, some n ∈ [s.total, s.errors, s.warnings, s.severe, s.files, s.ignored] → n < limit

theorem reader_yields : reader.Yields Fits := by
  refine Record.yields (P := Slots.Fit) ?blank ?fields ?build
  case blank  => simp [Slots.Fit]
  case fields =>
    simp only [record, List.forall_mem_cons]
    refine ⟨?_, ?_, ?_, ?_, ?_, ?_, List.forall_mem_nil _⟩ <;>
    · refine .of .word64 fun n s hn hs => ?_
      simp only [Slots.Fit, List.mem_cons] at hs ⊢
      grind [limit]
  case build =>
    intro s x hs h
    have ⟨total, ht, h⟩ := bind_eq_ok_iff.mp h
    have ⟨errors, he, h⟩ := bind_eq_ok_iff.mp h
    have ⟨warnings, hw, h⟩ := bind_eq_ok_iff.mp h
    have ⟨severe, hv, h⟩ := bind_eq_ok_iff.mp h
    have ⟨files, hf, h⟩ := bind_eq_ok_iff.mp h
    have ⟨ignored, hi, h⟩ := bind_eq_ok_iff.mp h
    cases h
    rw [RecordField.required_eq_ok_iff] at ht he hw hv hf hi
    simp only [Slots.Fit, ht, he, hw, hv, hf, hi] at hs
    exact ⟨hs _ (by simp), hs _ (by simp), hs _ (by simp), hs _ (by simp), hs _ (by simp),
      hs _ (by simp)⟩

end Summary

namespace Report

def Slots.Restorable (s : Slots) : Prop :=
  (∀ es ∈ s.entries, ∀ e ∈ es, e = Entry.of e.diagnostic) ∧ ∀ x ∈ s.summary, x.Fits

theorem reader_yields : reader.Yields Restorable := by
  refine Record.yields (P := Slots.Restorable) ?blank ?fields ?build
  case blank  => exact ⟨nofun, nofun⟩
  case fields =>
    simp only [record, List.forall_mem_cons]
    refine ⟨?version, ?timestamp, ?summary, ?entries, List.forall_mem_nil _⟩
    case version | timestamp => exact .of (Q := fun _ => True) (fun _ _ _ _ => trivial) fun _ _ _ hs => hs
    case summary =>
      exact .of Summary.reader_yields fun x s hx hs =>
        ⟨hs.left, fun y hy => Option.some.inj hy ▸ hx⟩
    case entries =>
      exact .of (.list Entry.reader_yields) fun es s he hs =>
        ⟨fun es' hes => Option.some.inj hes ▸ he, hs.right⟩
  case build =>
    intro s r hs h
    have ⟨version, _, h⟩ := bind_eq_ok_iff.mp h
    have ⟨timestamp, _, h⟩ := bind_eq_ok_iff.mp h
    have ⟨summary, hx, h⟩ := bind_eq_ok_iff.mp h
    have ⟨entries, he, h⟩ := bind_eq_ok_iff.mp h
    cases h
    rw [RecordField.required_eq_ok_iff] at hx he
    exact ⟨hs.left entries he, hs.right summary hx⟩

theorem restorable_of_load {text : String} {r : Report} (h : load text = .ok r) : r.Restorable :=
  reader_yields.decode h

theorem Canonical.lines_eq {r : Report} (h : r.Canonical) : r.lines = r.diagnostics.map (·.rendered) := by
  rw [lines, diagnostics, List.map_map]
  exact List.map_congr_left fun e he => by
    conv_lhs => rw [h e he]
    rfl

end Report

end LintReport
