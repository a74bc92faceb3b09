import LintReport.Proofs.Diagnostic.Rendering
import LintReport.Proofs.Report.Alike
import LintReport.Proofs.Template
import LintReport.Proofs.Text.Printable

namespace LintReport

namespace Template

variable {x : Char} {t : List Char} {ps as : List (List Char)}

theorem mem_of_mem_fill (h : x ∈ fill ps as) : x ∈ ps.flatten ∨ ∃ a ∈ as, x ∈ a := by
  induction ps generalizing as
  case nil          => cases as <;> cases h
  case cons p ps ih =>
    cases as
    case nil       => exact .inl h
    case cons a as =>
      simp only [fill, List.append_assoc, List.mem_append] at h
      grind

theorem mem_of_mem_pieces (h : x ∈ (pieces t).flatten) : x ∈ t := by
  fun_induction pieces t <;> grind

end Template

namespace Argument

theorem isPrintable_of_mem_shown {a : Argument} {x : Char} (ha : a.slot ≠ .text)
    (h : x ∈ a.shown.toList) : Text.isPrintable x = true := by
  cases a
  case name n   => exact Text.Quoted.isPrintable_of_mem_encode <| toList_shown_name n ▸ h
  case line n   => exact Text.isPrintable_of_mem_toDigits <| toList_shown_line n ▸ h
  case text s   => exact absurd rfl ha
  case names ns => exact Text.Quoted.isPrintable_of_mem_encodeList <| toList_shown_names ns ▸ h

end Argument

namespace Code

def Quotes (c : Code) : Prop :=
  c ≠ .couldNotCompile ∧ c ≠ .importStarUsed

instance (c : Code) : Decidable c.Quotes :=
  inferInstanceAs (Decidable (_ ∧ _))

theorem templates_printable : ∀ c ∈ catalog, c ≠ .couldNotCompile →
    (c.templates.headD "").toList.all Text.isPrintable = true := by
  decide +kernel

theorem text_not_mem_argumentSlots {c : Code} (h : c.Quotes) : .text ∉ c.argumentSlots := by
  cases c
  case couldNotCompile => exact absurd rfl h.left
  case importStarUsed  => exact absurd rfl h.right
  all_goals decide

end Code

namespace Diagnostic

variable {d : Diagnostic} {x : Char}

theorem isPrintable_of_mem_message (h : d.code.Quotes) (hx : x ∈ d.message.toList) :
    Text.isPrintable x = true := by
  rw [message, Kind.message, String.toList_ofList, Kind.template_eq h.left] at hx
  obtain hx | ⟨_, hm, hx⟩ := Template.mem_of_mem_fill hx
  case inl =>
    have ht := Code.templates_printable _ d.code.mem_catalog h.left
    exact Text.isPrintable_of_all ht x <| Template.mem_of_mem_pieces hx
  case inr =>
    obtain ⟨a, ha, rfl⟩ := List.mem_map.mp hm
    have hs : a.slot ∈ d.code.argumentSlots :=
      Kind.map_slot_arguments h.left ▸ List.mem_map_of_mem ha
    have ht : a.slot ≠ .text := fun ht => Code.text_not_mem_argumentSlots h (ht ▸ hs)
    exact Argument.isPrintable_of_mem_shown ht hx

theorem isPrintable_of_mem_columnText {c : Option UInt32} (h : x ∈ columnText c) :
    Text.isPrintable x = true := by
  cases c
  case none   => cases h
  case some c =>
    simp only [columnText, List.cons_append, List.mem_cons, List.mem_append, List.not_mem_nil,
      or_false] at h
    obtain rfl | hx | rfl := h
    · decide
    · exact Text.isPrintable_of_mem_toDigits hx
    · decide

theorem isPrintable_of_mem_tag {s : Severity} (h : x ∈ s.tag.toList) :
    Text.isPrintable x = true := by
  refine Text.isPrintable_of_all ?_ x h
  cases s <;> rfl

theorem rendered_ne_empty (d : Diagnostic) : d.rendered ≠ "" := by
  intro h
  have h := congrArg String.toList h
  rw [toList_rendered, String.toList_empty] at h
  exact absurd h <| List.append_ne_nil_of_right_ne_nil _ nofun

theorem mem_filename_or_isPrintable (h : d.code.Quotes) (hx : x ∈ d.rendered.toList) :
    x ∈ d.filename.toList ∨ Text.isPrintable x = true := by
  have hm : ∀ x ∈ [':', ' ', '[', ']'], Text.isPrintable x = true := Text.isPrintable_of_all rfl
  simp only [toList_rendered, List.mem_append, List.mem_cons] at hx
  have hd := @Text.isPrintable_of_mem_toDigits x d.location.line.toNat
  have hc := @isPrintable_of_mem_columnText x d.location.column
  have ht := @isPrintable_of_mem_tag x d.severity
  have hg := @isPrintable_of_mem_message d x h
  grind

end Diagnostic

-- The lines that line feeds part a text into. A text without characters has none.
def Text.lines (t : String) : List String :=
  if t = "" then [] else (t.toList.splitOn '\n').map String.ofList

theorem Text.lines_intercalate {ls : List String} (h : ∀ l ∈ ls, l ≠ "" ∧ '\n' ∉ l.toList) :
    lines ("\n".intercalate ls) = ls := by
  cases ls
  case nil       => rfl
  case cons l ls =>
    have hs : ("\n".intercalate (l :: ls)).toList.splitOn '\n' = (l :: ls).map String.toList := by
      rw [String.toList_intercalate]
      refine List.splitOn_intercalate '\n' (fun s hs => ?_) (by simp)
      obtain ⟨l', hl, rfl⟩ := List.mem_map.mp hs
      exact (h l' hl).right
    have hn : "\n".intercalate (l :: ls) ≠ "" := by
      intro he
      rw [he, String.toList_empty, List.splitOn_nil] at hs
      exact (h l List.mem_cons_self).left <| String.toList_inj.mp (List.cons.inj hs).left.symm
    rw [lines, if_neg hn, hs, List.map_map]
    simp [Function.comp_def]

namespace Report

variable {r r' : Report}

-- However a report comes about. One that is stored comes back from its text.
inductive Made : Report → Prop
  | ofDiagnostics (timestamp : String) (config : Config) (ds : List Diagnostic) :
    Made (ofDiagnostics timestamp config.ignore ds)
  | load {text : String} {r : Report} (h : load text = .ok r) : Made r
  | add {r r' : Report} {d : Diagnostic} {b : Bool} (h : Made r) (ha : r.add d = .ok (r', b)) :
    Made r'

theorem Made.canonical (h : r.Made) : r.Canonical := by
  induction h
  case ofDiagnostics t config ds => exact (Sound.ofDiagnostics t config.ignore ds).canonical
  case load h                    => exact (restorable_of_load h).canonical
  case add ha ih                 => exact ih.add ha

theorem Canonical.lines_intercalate (hc : r.Canonical)
    (h : ∀ d ∈ r.diagnostics, d.code.Quotes ∧ '\n' ∉ d.filename.toList) :
    Text.lines ("\n".intercalate r.lines) = r.lines := by
  refine Text.lines_intercalate fun l hl => ?_
  rw [hc.lines_eq] at hl
  obtain ⟨d, hd, rfl⟩ := List.mem_map.mp hl
  have ⟨hq, hf⟩ := h d hd
  refine ⟨d.rendered_ne_empty, fun hn => ?_⟩
  obtain hn | hn := Diagnostic.mem_filename_or_isPrintable hq hn
  · exact hf hn
  · exact absurd hn (by decide)

-- Messages that quote their names hold no control, no blank but the space and nothing without width.
-- So a report has as many lines as entries, each the line of its diagnostic, whatever the names are.
theorem names_break_no_line :
    (∀ x, Text.isPrintable x = true ↔
      Text.controls.has x = false ∧ (Text.isBlank x = true → x = ' ') ∧
        Text.zeroWidth.has x = false) ∧
    (∀ d : Diagnostic, d.code.Quotes → ∀ x ∈ d.message.toList, Text.isPrintable x = true) ∧
    ∀ r : Report, r.Made → (∀ d ∈ r.diagnostics, d.code.Quotes ∧ '\n' ∉ d.filename.toList) →
      Text.lines ("\n".intercalate r.lines) = r.lines ∧
      r.lines = r.diagnostics.map (·.rendered) := by
  refine ⟨fun x => Text.isPrintable_iff, fun d h x => Diagnostic.isPrintable_of_mem_message h,
    fun r hm h => ⟨hm.canonical.lines_intercalate h, hm.canonical.lines_eq⟩⟩

theorem names_break_no_line_forged :
    let d : Diagnostic := .make (.lateFutureImport ["x'\nb.py:1: [E] \"", "\u2028\u200b"]) "a.py" ⟨1, none⟩
    let r := ofDiagnostics "" { : Config }.ignore [d]
    d.code.Quotes ∧ r.Made ∧ r.diagnostics = [d] ∧ '\n' ∉ d.filename.toList ∧
    (∀ x ∈ d.message.toList, Text.isPrintable x = true) ∧
    Text.lines ("\n".intercalate r.lines) =
      ["a.py:1: [W] future import(s) ['x\\'\\nb.py:1: [E] \"', '\\u2028\\u200b'] after other statements"] := by
  intro d r
  have hq : d.code.Quotes := by decide
  have hr : r.Made := .ofDiagnostics ..
  have hd : r.diagnostics = [d] := by
    rw [diagnostics_ofDiagnostics]
    simp [kept, sortBy, List.eraseDups_cons]
  have hf : '\n' ∉ d.filename.toList := by decide
  have hp := names_break_no_line.right.left d hq
  have hl := names_break_no_line.right.right r hr <| by
    rw [hd]
    exact List.forall_mem_singleton.mpr ⟨hq, hf⟩
  refine ⟨hq, hr, hd, hf, hp, ?_⟩
  rw [hl.left, hl.right, hd, List.map_singleton]
  exact congrArg ([·]) (by decide +kernel)

end Report

end LintReport
