import LintReport.Proofs.Diagnostic.Parts
import LintReport.Proofs.Report.Addition
import LintReport.Proofs.Report.Reference

namespace LintReport.Report

open Json (Source Place)
open Diagnostic (Parts)

variable {t : String} {ignore : List Code} {ds ds' : List Diagnostic} {d : Diagnostic}

theorem kept_append_cons (h : d ∈ ds) : kept ignore (ds ++ d :: ds') = kept ignore (ds ++ ds') := by
  by_cases hi : d.code ∈ ignore
  case pos => simp [kept, hi]
  case neg =>
    have hd : d ∈ ds.filter (·.code ∉ ignore) := List.mem_filter.mpr ⟨h, by simpa using hi⟩
    simp only [kept, List.filter_append]
    rw [List.filter_cons_of_pos (by simpa using hi), eraseDups_append_cons hd]

theorem entries_ofDiagnostics_append_cons (h : d ∈ ds) :
    (ofDiagnostics t ignore (ds ++ d :: ds')).entries = (ofDiagnostics t ignore (ds ++ ds')).entries := by
  rw [entries_ofDiagnostics, entries_ofDiagnostics, kept_append_cons h]

-- Every diagnostic is in its normal form, which is what is made of it again, and one that is read is made
-- from the parts that are read. From two collections of parts the same diagnostic is made if and only
-- if they differ in nothing but what is not kept; where an earlier definition is, is kept with its
-- column. So a report takes the one for the other, and does not take both.
theorem normal_however_made (d : Diagnostic) (p : Place) (v : Source) (x y : Parts) :
    d.Normal ∧ Diagnostic.make d.kind d.filename d.location = d ∧
    Diagnostic.reader p v = (Parts.reader p v).map Parts.made ∧
    (x.made = y.made ↔ x.Alike y) ∧ x.made.kind.origin? = x.kind.origin? ∧
    (x.Alike y →
      (∀ r : Report, r.add x.made = r.add y.made) ∧
      (∀ r : Report, r.Ordered → x.made ∈ r.diagnostics → r.add y.made = .ok (r, false)) ∧
      ∀ (timestamp : String) (config : Config) (ds ds' : List Diagnostic), x.made ∈ ds →
        (ofDiagnostics timestamp config.ignore (ds ++ y.made :: ds')).entries =
        (ofDiagnostics timestamp config.ignore (ds ++ ds')).entries) := by
  refine ⟨d.normal, d.make_eq, Diagnostic.reader_eq_map_made p v, Parts.made_eq_iff,
    x.kind.origin?_normalized, fun h => ?duplicates⟩
  case duplicates =>
    rw [Parts.made_eq_iff.mpr h]
    exact ⟨fun _ => rfl, fun r ho hd => ho.add_of_mem hd,
      fun _ _ _ _ hd => entries_ofDiagnostics_append_cons hd⟩

theorem normal_however_made_suppressed :
    let x : Parts := ⟨.unusedImport "os", "a.py", ⟨3, some 9⟩⟩
    let y : Parts := ⟨.unusedImport "os", "a.py", ⟨3, none⟩⟩
    let z : Parts := ⟨.couldNotCompile (some "") none, "a.py", ⟨0, some 1⟩⟩
    let z' : Parts := ⟨.couldNotCompile none (some ""), "a.py", ⟨0, some 1⟩⟩
    let r : Report := ⟨.current, "", ⟨1, 0, 1, 0, 1, 0⟩, [.of x.made]⟩
    x.Alike y ∧ z.Alike z' ∧ z.made = z'.made ∧
    r.Ordered ∧ x.made ∈ r.diagnostics ∧ r.add y.made = .ok (r, false) ∧
    (ofDiagnostics "" [] ([z.made] ++ z'.made :: [])).entries = (ofDiagnostics "" [] [z.made]).entries := by
  intro x y z z' r
  have h : x.Alike y := ⟨.refl _, rfl, rfl, .inl rfl⟩
  have hz : z.Alike z' := ⟨.couldNotCompile rfl rfl, rfl, rfl, .inr rfl⟩
  have ho : r.Ordered := List.pairwise_singleton _ _
  have hx : x.made ∈ r.diagnostics := List.mem_singleton_self _
  have ⟨_, _, _, _, _, hd⟩ := normal_however_made x.made {} .null x y
  have ⟨_, _, _, hm, _, hd'⟩ := normal_however_made z.made {} .null z z'
  have ⟨_, hr, _⟩ := hd h
  have ⟨_, _, hl⟩ := hd' hz
  exact ⟨h, hz, hm.mpr hz, ho, hx, hr r ho hx, hl "" {} [z.made] [] (List.mem_singleton_self _)⟩

-- A text may put an entry behind one that comes after it. A diagnostic alike to the later one is not found
-- in the report of it, and ends up there twice.
theorem taken_beside_alike :
    let x : Parts := ⟨.unusedImport "os", "b.py", ⟨3, none⟩⟩
    let y : Parts := ⟨.unusedImport "os", "b.py", ⟨3, some 9⟩⟩
    let z : Parts := ⟨.unusedImport "os", "a.py", ⟨3, none⟩⟩
    let r : Report := ⟨.current, "", ⟨2, 0, 2, 0, 2, 0⟩, [.of x.made, .of z.made]⟩
    load r.stored = .ok r ∧ x.Alike y ∧ x.made ∈ r.diagnostics ∧ r.add y.made ≠ .ok (r, false) ∧
    ∃ r', r.add y.made = .ok (r', true) ∧ r'.diagnostics = [x.made, z.made, y.made] ∧ y.made = x.made := by
  intro x y z r
  have hc : r.Canonical := by simp [Canonical, r, Entry.of]
  have h : x.Alike y := ⟨.refl _, rfl, rfl, .inl rfl⟩
  let r' : Report := ⟨.current, "", ⟨3, 0, 3, 0, 3, 0⟩, [.of x.made, .of z.made, .of y.made]⟩
  have hi : r.insert? y.made = some r' := by decide +kernel
  have ha : r.add y.made = .ok (r', true) := by rw [add, hi]; rfl
  exact ⟨hc.load_stored (by decide), h, List.mem_cons_self, by simp [ha],
    r', ha, rfl, (Parts.made_eq_iff.mpr h).symm⟩

end LintReport.Report
