import LintReport.Proofs.Command.Color
import LintReport.Proofs.Report.Loading

namespace LintReport

theorem unlines_append (ls ls' : List String) : unlines (ls ++ ls') = unlines ls ++ unlines ls' := by
  simp [unlines, String.join_append]

theorem intercalate_newline {ls : List String} (h : ls ≠ []) :
    "\n".intercalate ls ++ "\n" = unlines ls := by
  induction ls
  case nil => exact absurd rfl h
  case cons l ls ih =>
    cases ls
    case nil => simp [unlines]
    case cons l' ls =>
      rw [String.intercalate_cons_cons, String.append_assoc, ih (List.cons_ne_nil l' ls)]
      simp [unlines, String.append_assoc]

namespace Report

variable {r : Report} {t : String} {ignore : List Code} {ds : List Diagnostic}

def closing (colored : Bool) (r : Report) : List String :=
  if r.summary.total = 0 then [Paint.green.on colored "✓ No problems found"] else r.summary.page colored

theorem Canonical.page_false (h : r.Canonical) :
    r.page false = unlines r.lines ++ unlines (r.closing false) := by
  have hl : r.entries.map (·.painted false) = r.lines :=
    List.map_congr_left fun e he => by rw [h e he]; exact e.diagnostic.painted_of_false
  rw [page, hl, unlines_append, closing]

theorem plain_of_ne_nil (h : r.lines ≠ []) : r.plain = unlines r.lines :=
  intercalate_newline h

theorem lines_ofDiagnostics_eq_nil_iff :
    (ofDiagnostics t ignore ds).lines = [] ↔ ∀ d ∈ ds, d.code ∈ ignore := by
  have hm : (ofDiagnostics t ignore ds).lines = [] ↔ ∀ d, d ∉ kept ignore ds := by
    simp [lines, entries_ofDiagnostics, List.eq_nil_iff_forall_not_mem, mem_sortBy]
  simp [hm, mem_kept]

end Report

namespace Command

variable {w : Surroundings} {config : Option String} {input : String} {c : Config}
  {ds : List Diagnostic}

-- What is printed for a report and what is written for it are the same, line by line and in the stored
-- form, but for the summary behind the lines and for the end of the last line. Only where there is nothing
-- to report, the file for the lines holds an empty line.
theorem routes_agree (h : w.Finds config input c ds) {f : OutputFormat}
    {screen file : List String} {format format' : Option OutputFormat} {path : String}
    {failOn failOn' : Option FailPolicy}
    (hs : parse screen = .ok ⟨config, .report input format none failOn⟩)
    (hf : parse file = .ok ⟨config, .report input format' (some path) failOn'⟩)
    (hw : w.Takes (some path) (w.filed c ds format')) (he : format.getD c.format = f)
    (he' : format'.getD c.format = f) :
    let r := Report.ofDiagnostics w.timestamp c.ignore ds
    let printed := (run w screen).output
    let written := (run w file).written
    (f = .text →
      ((∃ d ∈ ds, c.ignores d.code = false) → written = some (path, (unlines r.lines).toUTF8)) ∧
      ((∀ d ∈ ds, c.ignores d.code = true) →
        r.lines = [] ∧ written = some (path, "\n".toUTF8)) ∧
      ((w.colors && c.color) = false → printed = unlines r.lines ++ unlines (r.closing false))) ∧
    (f = .json →
      ∃ text : String, written = some (path, text.toUTF8) ∧ printed = text ++ "\n") := by
  intro r printed written
  have hp : printed = r.shown (w.colors && c.color) f := by
    simp only [printed, h.run_eq hs Surroundings.takes_none, he, delivered, r]
  have hq : written = some (path, (r.filed f).toUTF8) := by
    simp only [written, h.run_eq hf hw, he', delivered, r]
  have hl : r.lines = [] ↔ ∀ d ∈ ds, c.ignores d.code = true := by
    simp [r, Report.lines_ofDiagnostics_eq_nil_iff, Config.ignores]
  constructor <;> rintro rfl
  case left =>
    refine ⟨?some, fun hi => ⟨hl.mpr hi, ?none⟩, fun hn => ?printed⟩
    case some =>
      rintro ⟨d, hd, hi⟩
      have hn : r.lines ≠ [] := fun he => by cases hi.symm.trans (hl.mp he d hd)
      rw [hq, Report.filed, Report.plain_of_ne_nil hn]
    case none    => rw [hq, Report.filed, Report.plain, hl.mpr hi]; rfl
    case printed =>
      have hc := (Report.Sound.ofDiagnostics w.timestamp c.ignore ds).canonical
      rw [hp, hn, Report.shown, hc.page_false]
  case right => exact ⟨r.stored, hq, hp⟩

theorem routes_agree_newline :
    let d : Diagnostic := .make (.couldNotCompile (some "a\nb") none) "x.py" ⟨1, none⟩
    let w (text : String) : Surroundings := {
      present      := fun _ => false
      read         := fun path => if path = "found" then .ok text.toUTF8 else .error .missing
      opens        := fun _ => .ok ()
      writes       := fun _ _ => .ok ()
      leadsToInput := fun _ => false
      input        := text.toUTF8
      colors       := false
      timestamp    := "" }
    let r := Report.ofDiagnostics "" [] [d]
    let run (args : List String) := run (w (Diagnostic.listToJson [d]).compact) ("report" :: args)
    (run ["--output", "out", "found"]).written = some ("out", (d.rendered ++ "\n").toUTF8) ∧
    (run ["found"]).output = d.rendered ++ "\n" ++ unlines (r.closing false) ∧
    ∃ text : String,
      (run ["--format", "json", "--output", "out", "found"]).written = some ("out", text.toUTF8) ∧
      (run ["--format", "json", "found"]).output = text ++ "\n" := by
  intro d w r run
  have hb (text : String) : ((w text).configured none).inputBytes "found" = .ok text.toUTF8 :=
    Surroundings.inputBytes_eq rfl
  have hf : (w (Diagnostic.listToJson [d]).compact).Finds none "found" {} [d] :=
    ⟨rfl, .of_written (hb _)⟩
  have hl : unlines r.lines = d.rendered ++ "\n" := by
    have hc : r.Canonical := (Report.Sound.ofDiagnostics "" [] [d]).canonical
    rw [hc.lines_eq, Report.diagnostics_ofDiagnostics]
    simp [Report.kept, sortBy, List.eraseDups_cons, unlines]
  have hs : parse ["report", "found"] = .ok ⟨none, .report "found" none none none⟩ := rfl
  have hs' : parse ["report", "--output", "out", "found"] =
      .ok ⟨none, .report "found" none (some "out") none⟩ := rfl
  have hj : parse ["report", "--format", "json", "found"] =
      .ok ⟨none, .report "found" (some .json) none none⟩ := rfl
  have hj' : parse ["report", "--format", "json", "--output", "out", "found"] =
      .ok ⟨none, .report "found" (some .json) (some "out") none⟩ := rfl
  have ho (text : String) : (w (Diagnostic.listToJson [d]).compact).Takes (some "out") text :=
    Surroundings.takes_some_iff.mpr ⟨rfl, rfl⟩
  obtain ⟨hw, -, hp⟩ := (routes_agree hf hs hs' (ho _) rfl rfl).1 rfl
  exact ⟨hl ▸ hw ⟨d, .head _, rfl⟩, hl ▸ hp rfl, (routes_agree hf hj hj' (ho _) rfl rfl).2 rfl⟩

-- A file holds a line that stands for no entry, while nothing like it is printed.
theorem file_of_no_entries :
    let w (text : String) : Surroundings := {
      present      := fun _ => false
      read         := fun path => if path = "found.json" then .ok text.toUTF8 else .error .missing
      opens        := fun _ => .ok ()
      writes       := fun _ _ => .ok ()
      leadsToInput := fun _ => false
      input        := text.toUTF8
      colors       := false
      timestamp    := "" }
    let r := Report.ofDiagnostics "" [] []
    let run (args : List String) := run (w "[]") ("report" :: "--format" :: "text" :: args)
    let written := (run ["--output", "out.txt", "found.json"]).written
    unlines r.lines = "" ∧ written = some ("out.txt", "\n".toUTF8) ∧
    written ≠ some ("out.txt", (unlines r.lines).toUTF8) ∧
    (run ["found.json"]).output = unlines r.lines ++ unlines ["✓ No problems found"] := by
  intro w r run written
  have hb (text : String) : ((w text).configured none).inputBytes "found.json" = .ok text.toUTF8 :=
    Surroundings.inputBytes_eq rfl
  have hf : (w "[]").Finds none "found.json" {} [] := ⟨rfl, .of_written (hb _)⟩
  have hs : parse ["report", "--format", "text", "found.json"] =
      .ok ⟨none, .report "found.json" (some .text) none none⟩ := rfl
  have hs' : parse ["report", "--format", "text", "--output", "out.txt", "found.json"] =
      .ok ⟨none, .report "found.json" (some .text) (some "out.txt") none⟩ := rfl
  have hw : written = some ("out.txt", "\n".toUTF8) :=
    congrArg (·.written) (hf.run_eq hs' (Surroundings.takes_some_iff.mpr ⟨rfl, rfl⟩))
  exact ⟨rfl, hw, hw ▸ by decide, congrArg (·.output) (hf.run_eq hs Surroundings.takes_none)⟩

end Command

end LintReport
