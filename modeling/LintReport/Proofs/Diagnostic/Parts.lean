import LintReport.Proofs.Diagnostic.Json
import LintReport.Proofs.Json.Yields

namespace LintReport

open Json (Reader Record RecordField Source Place)

namespace Kind

-- The same, except that an empty reason or line may be missing in the other.
inductive Alike : Kind → Kind → Prop
  | refl (k : Kind) : Alike k k
  | couldNotCompile {reason reason' line line' : Option String}
    (hr : reason.getD "" = reason'.getD "") (hl : line.getD "" = line'.getD "") :
    Alike (.couldNotCompile reason line) (.couldNotCompile reason' line')

variable {k k' : Kind}

theorem normalized_eq_self (h : k.code ≠ .couldNotCompile) : k.normalized = k := by
  cases k
  case couldNotCompile => exact absurd rfl h
  all_goals rfl

theorem exists_eq_couldNotCompile (h : k.code = .couldNotCompile) :
    ∃ reason line, k = .couldNotCompile reason line := by
  cases k
  case couldNotCompile reason line => exact ⟨reason, line, rfl⟩
  all_goals cases h

theorem filter_ne_empty_eq_iff {s s' : Option String} :
    s.filter (· ≠ "") = s'.filter (· ≠ "") ↔ s.getD "" = s'.getD "" := by
  have hf (s : Option String) :
      s.filter (· ≠ "") = if s.getD "" = "" then none else some (s.getD "") := by
    cases s
    case none   => rfl
    case some s => by_cases hs : s = "" <;> simp [Option.filter, hs]
  have hg (s : Option String) : (s.filter (· ≠ "")).getD "" = s.getD "" := by
    rw [hf]
    by_cases hs : s.getD "" = "" <;> simp [hs]
  constructor
  case mp  => intro h; rw [← hg s, h, hg s']
  case mpr => intro h; rw [hf s, h, hf s']

theorem normalized_eq_iff : k.normalized = k'.normalized ↔ k.Alike k' := by
  constructor
  case mp =>
    intro h
    have hc : k.code = k'.code := by rw [← k.code_normalized, h, k'.code_normalized]
    by_cases hk : k.code = .couldNotCompile
    case pos =>
      obtain ⟨reason, line, rfl⟩ := exists_eq_couldNotCompile hk
      obtain ⟨reason', line', rfl⟩ := exists_eq_couldNotCompile (hc ▸ hk)
      have ⟨hr, hl⟩ := Kind.couldNotCompile.inj h
      exact .couldNotCompile (filter_ne_empty_eq_iff.mp hr) (filter_ne_empty_eq_iff.mp hl)
    case neg =>
      rw [normalized_eq_self hk, normalized_eq_self (hc ▸ hk)] at h
      exact h ▸ .refl k
  case mpr =>
    intro h
    cases h
    case refl => rfl
    case couldNotCompile hr hl =>
      rw [normalized, normalized, filter_ne_empty_eq_iff.mpr hr, filter_ne_empty_eq_iff.mpr hl]

theorem Alike.code_eq (h : k.Alike k') : k.code = k'.code := by
  cases h <;> rfl

theorem origin?_normalized (k : Kind) : k.normalized.origin? = k.origin? := by
  cases k <;> rfl

end Kind

namespace Diagnostic

structure Normal (d : Diagnostic) : Prop where
  column : d.code.traits.columns = .suppressed → d.location.column = none
  filled : ∀ reason line, d.kind = .couldNotCompile reason line → reason ≠ some "" ∧ line ≠ some ""

theorem normal (d : Diagnostic) : d.Normal where
  column h      := by
    rw [← d.location_under, show d.kind.code.traits.columns = .suppressed from h]
    rfl
  filled r l hk := by
    have hn : Kind.couldNotCompile r l = .couldNotCompile (r.filter (· ≠ "")) (l.filter (· ≠ "")) := by
      simpa [hk, Kind.normalized] using d.kind_normalized.symm
    obtain ⟨hr, hl⟩ := Kind.couldNotCompile.inj hn
    refine ⟨?reason, ?line⟩
    case reason => rintro rfl; cases hr
    case line   => rintro rfl; cases hl

structure Parts where
  kind     : Kind
  filename : String
  location : Location

namespace Parts

def made (x : Parts) : Diagnostic :=
  make x.kind x.filename x.location

def record : Record Slots Parts where
  expected := Diagnostic.record.expected
  fields   := Diagnostic.record.fields
  build s  := do
    let filename ← RecordField.required "filename" s.filename
    let location ← RecordField.required "location" s.location
    let kind ← RecordField.required "kind" s.kind
    return { kind, filename, location }

def reader : Reader Parts :=
  record.read {}

-- The same, except for what a diagnostic does not keep.
structure Alike (x y : Parts) : Prop where
  kind     : x.kind.Alike y.kind
  filename : x.filename = y.filename
  line     : x.location.line = y.location.line
  column   : x.kind.code.traits.columns = .suppressed ∨ x.location.column = y.location.column

variable {x y : Parts}

theorem under_eq_under_iff {l l' : Location} {p : ColumnPolicy} :
    l.under p = l'.under p ↔ l.line = l'.line ∧ (p = .suppressed ∨ l.column = l'.column) := by
  have ⟨line, column⟩ := l
  have ⟨line', column'⟩ := l'
  cases p <;> simp [Location.under]

theorem made_eq_iff : x.made = y.made ↔ x.Alike y := by
  constructor
  case mp =>
    intro h
    have hk : x.kind.Alike y.kind := Kind.normalized_eq_iff.mp <| congrArg Diagnostic.kind h
    have hl := congrArg Diagnostic.location h
    simp only [made, make, hk.code_eq] at hl
    obtain ⟨hline, hcolumn⟩ := under_eq_under_iff.mp hl
    exact ⟨hk, congrArg Diagnostic.filename h, hline, hk.code_eq ▸ hcolumn⟩
  case mpr =>
    intro h
    have hk : x.kind.normalized = y.kind.normalized := Kind.normalized_eq_iff.mpr h.kind
    have hl : x.location.under x.kind.code.traits.columns = y.location.under y.kind.code.traits.columns := by
      rw [← h.kind.code_eq]
      exact under_eq_under_iff.mpr ⟨h.line, h.column⟩
    simp only [made, make, h.filename, hk, hl]

end Parts

theorem reader_eq_map_made (p : Place) (v : Source) : reader p v = (Parts.reader p v).map Parts.made := by
  refine Record.read_map ?expected ?fields (fun s => ?build) p v
  case expected | fields => rfl
  case build =>
    have ⟨filename, location, kind⟩ := s
    cases filename <;> cases location <;> cases kind <;> rfl

end Diagnostic

end LintReport
