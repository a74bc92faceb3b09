import LintReport.Proofs.Diagnostic.Rendering
import LintReport.Proofs.Report.Addition
import LintReport.Proofs.Report.Loading
import LintReport.Proofs.Template
import LintReport.Report.Checked

namespace LintReport

namespace Kind

theorem template_mem_templates (k : Kind) : k.template ∈ k.code.templates := by
  cases k
  case couldNotCompile reason line =>
    cases reason
    case none        => exact .tail _ <| .tail _ <| .head _
    case some reason =>
      cases line
      case none      => exact .tail _ <| .head _
      case some line => exact .head _
  all_goals exact .head _

theorem arity_templates : ∀ c ∈ Code.catalog, c ≠ .couldNotCompile →
    Template.arity (c.templates.headD "").toList = c.argumentSlots.length := by
  decide +kernel

theorem arity_couldNotCompile :
    Template.arity Code.couldNotCompileFull.toList = 2 ∧
    Template.arity Code.couldNotCompileReason.toList = 1 ∧
    Template.arity Code.couldNotCompileBare.toList = 0 := by
  decide +kernel

theorem arity_template (k : Kind) : Template.arity k.template.toList = k.arguments.length := by
  by_cases hk : k.code = .couldNotCompile
  case neg =>
    rw [template_eq hk, arity_templates _ k.code.mem_catalog hk, ← map_slot_arguments hk,
      List.length_map]
  case pos =>
    cases k
    case couldNotCompile reason line =>
      have ⟨hf, hr, hb⟩ := arity_couldNotCompile
      cases reason
      case none        => exact hb
      case some reason =>
        cases line
        case none      => exact hr
        case some line => exact hf
    all_goals cases hk

theorem substitute_eq (k : Kind) : substitute k.template k.arguments = .ok k.message :=
  if_pos k.arity_template

theorem checkedMessage_eq (k : Kind) : k.checkedMessage = .ok k.message := by
  rw [checkedMessage, substitute_eq, mapError_ok]

end Kind

namespace Diagnostic

theorem checkedRendered_eq (d : Diagnostic) : d.checkedRendered = .ok d.rendered := by
  rw [checkedRendered, Kind.checkedMessage_eq]
  rfl

end Diagnostic

theorem Entry.checkedOf_eq (d : Diagnostic) : Entry.checkedOf d = .ok (.of d) := by
  rw [checkedOf, d.checkedRendered_eq, Kind.checkedMessage_eq]
  rfl

namespace Report

theorem checkedAdd_eq (r : Report) (d : Diagnostic) :
    r.checkedAdd d = (r.add d).mapError .overflow := by
  rw [checkedAdd, if_pos ⟨r.first_le_last d, boundary_le_length⟩]
  cases r.add d
  case error     => rfl
  case ok answer =>
    have ⟨r', added⟩ := answer
    cases added
    case false => rfl
    case true  => simp only [mapError_ok, ok_bind, Entry.checkedOf_eq]; rfl

variable {r : Report} {d : Diagnostic} {t : String} {ignore : List Code} {ds : List Diagnostic}

theorem Ordered.exists_add_eq (h : r.Ordered) (hf : (r.insert d).summary.Fits) :
    ∃ added, r.add d = .ok (r.insert d, added) := by
  rw [insert, h.insert?_eq] at hf ⊢
  rw [h.add_eq]
  by_cases hd : d ∈ r.diagnostics
  case pos => exact ⟨false, by simp [hd]⟩
  case neg =>
    simp only [hd, if_false, Option.getD_some] at hf ⊢
    exact ⟨true, if_pos hf⟩

theorem checkedOfDiagnostics_eq (h : ds.length < Summary.limit) :
    checkedOfDiagnostics t ignore ds = .ok (ofDiagnostics t ignore ds) := by
  induction ds using List.reverseRecOn
  case nil => rfl
  case append_singleton ds d ih =>
    have hf : (ofDiagnostics t ignore (ds ++ [d])).summary.Fits := fits_ofDiagnostics h
    have hl : ds.length < Summary.limit := Nat.lt_of_le_of_lt (by simp) h
    rw [ofDiagnostics_concat] at hf ⊢
    rw [checkedOfDiagnostics, List.foldlM_append, ← checkedOfDiagnostics, ih hl, ok_bind,
      List.foldlM_cons]
    split at hf
    case isTrue hi  => simp only [hi, if_true, checkedIgnore, if_pos hf]; rfl
    case isFalse hi =>
      have ⟨added, ha⟩ := (Sound.ofDiagnostics t ignore ds).ordered.exists_add_eq hf
      simp only [hi, if_false, checkedAdd_eq, ha]
      rfl

-- No check fails for what can be read from a text, whether its kind is in normal form or not, whether
-- or not it counts its lines from 1 as a location given by hand has to, and whatever braces its names
-- hold. What remains is a count that a text has put close to the greatest word, when more is added.
theorem checks_hold :
    (∀ k : Kind, k.template ∈ k.code.templates ∧
      Template.occurrences k.template.toList = k.arguments.length ∧
      substitute k.template k.arguments = .ok k.message ∧
      Json.decode Kind.reader k.toJson.pretty = .ok k) ∧
    (∀ d : Diagnostic, d.kind.checkedMessage = .ok d.message ∧ d.checkedRendered = .ok d.rendered ∧
      Json.decode Diagnostic.reader d.toJson.pretty = .ok d) ∧
    (∀ column, Location.ofLine 0 column = .error .lineZero) ∧
    (∀ text e, Json.decode Entry.reader text = .ok e → Entry.checkedOf e.diagnostic = .ok e ∧
      Json.decode Entry.reader e.toJson.pretty = .ok e) ∧
    (∀ text r, load text = .ok r → (∀ e ∈ r.entries, Entry.checkedOf e.diagnostic = .ok e) ∧
      load r.stored = .ok r ∧ ∀ d, r.checkedAdd d = (r.add d).mapError .overflow) ∧
    ∀ timestamp ignore ds, ds.length < Summary.limit →
      let r := ofDiagnostics timestamp ignore ds
      checkedOfDiagnostics timestamp ignore ds = .ok r ∧ load r.stored = .ok r := by
  refine ⟨fun k => ?kind, fun d => ?diagnostic, fun _ => rfl, fun text e h => ?entry,
    fun text r h => ?report, fun t ignore ds h => ?made⟩
  case kind =>
    have ha := k.arity_template
    rw [Template.arity_eq_occurrences] at ha
    exact ⟨k.template_mem_templates, ha, k.substitute_eq,
      k.reads.decode_pretty (by decide)⟩
  case diagnostic =>
    exact ⟨d.kind.checkedMessage_eq, d.checkedRendered_eq,
      d.reads.decode_pretty (by decide)⟩
  case entry =>
    have he := Entry.reader_yields.decode h
    exact ⟨(Entry.checkedOf_eq _).trans <| congrArg _ he.symm,
      (Entry.reads he).decode_pretty (by decide)⟩
  case report =>
    have hr := restorable_of_load h
    exact ⟨fun e he => (Entry.checkedOf_eq _).trans <| congrArg _ (hr.canonical e he).symm,
      hr.load_stored, r.checkedAdd_eq⟩
  case made =>
    have hc := (Sound.ofDiagnostics t ignore ds).canonical
    exact ⟨checkedOfDiagnostics_eq h, hc.load_stored <| fits_ofDiagnostics h⟩

-- The diagnostic and the kind that it refers to are on line 0, and the names are placeholders.
theorem checks_hold_line_zero :
    let k : Kind := .couldNotCompile (some "\x7b\x7d") (some "")
    let d : Diagnostic := .make (.redefinedFunction "\x7b\x7d" ⟨0, some 3⟩) "a.py" ⟨0, some 0⟩
    let r := ofDiagnostics "" [] [d]
    k.normalized ≠ k ∧ substitute k.template k.arguments = .ok "could not compile: \x7b\x7d\n" ∧
    d.checkedRendered = .ok "a.py:0(0): [W] redefinition of function '\x7b\x7d' from line 0" ∧
    Json.decode Entry.reader (Entry.of d).toJson.pretty = .ok (.of d) ∧
    Entry.checkedOf d = .ok (.of d) ∧
    checkedOfDiagnostics "" [] [d] = .ok r ∧ load r.stored = .ok r ∧
    r.checkedAdd d = (r.add d).mapError .overflow := by
  intro k d r
  have ⟨hk, hd, _, he, hr, hm⟩ := checks_hold
  have hs : Json.decode Entry.reader (Entry.of d).toJson.pretty = .ok (.of d) :=
    (Entry.reads rfl).decode_pretty (by decide)
  have ⟨hb, hl⟩ := hm "" [] [d] (by decide)
  have ⟨_, _, ha⟩ := hr _ _ hl
  refine ⟨by decide, (hk k).right.right.left.trans ?message, (hd d).right.left.trans ?rendered, hs,
    (he _ _ hs).left, hb, hl, ha d⟩
  case message  => exact congrArg _ (by decide +kernel)
  case rendered => exact congrArg _ (by decide +kernel)

end Report

end LintReport
