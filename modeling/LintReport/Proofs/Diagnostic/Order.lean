import LintReport.Diagnostic
import Mathlib.Data.List.Lex
import Mathlib.Data.Prod.Lex
import Mathlib.Data.String.Basic

namespace LintReport

def codePoints (s : String) : List ℕ :=
  s.toList.map Char.toNat

theorem codePoints_strictMono : StrictMono codePoints := fun _ _ h =>
  List.map_lt (fun _ _ h => h) <| String.lt_iff_toList_lt.mp h

theorem codePoints_injective : codePoints.Injective :=
  codePoints_strictMono.injective

def columnRank : Option UInt32 → ℕ
  | none   => 0
  | some c => c.toNat + 1

theorem columnRank_injective : columnRank.Injective := fun c₁ c₂ h => by
  cases c₁ <;> cases c₂ <;> simp_all [columnRank, UInt32.toNat_inj]

theorem compare_text_eq_lt_iff {s t : String} :
    compare s t = .lt ↔ codePoints s < codePoints t := by
  rw [compare_lt_iff_lt, codePoints_strictMono.lt_iff_lt]

theorem compare_text_eq_eq_iff {s t : String} :
    compare s t = .eq ↔ codePoints s = codePoints t := by
  rw [compare_eq_iff_eq, codePoints_injective.eq_iff]

theorem compare_line (m n : UInt32) : compare m n = compare m.toNat n.toNat := by
  simp only [compare, compareOfLessAndEq, UInt32.lt_iff_toNat_lt, ← UInt32.toNat_inj]

theorem compare_column (c₁ c₂ : Option UInt32) :
    compare c₁ c₂ = compare (columnRank c₁) (columnRank c₂) := by
  match c₁, c₂ with
  | none, none | none, some _ | some _, none => rfl
  | some c₁, some c₂ =>
    calc compare c₁ c₂
      _ = compare c₁.toNat c₂.toNat             := compare_line c₁ c₂
      _ = compare (c₁.toNat + 1) (c₂.toNat + 1) := by simp [compare, compareOfLessAndEq]

namespace Diagnostic

abbrev Key := List ℕ ×ₗ ℕ ×ₗ ℕ ×ₗ ℕ

def key (d : Diagnostic) : Key :=
  toLex (codePoints d.filename,
    toLex (d.location.line.toNat, toLex (columnRank d.location.column, d.code.rank)))

variable {d₁ d₂ : Diagnostic}

theorem key_eq_iff :
    d₁.key = d₂.key ↔
    d₁.filename = d₂.filename ∧ d₁.location = d₂.location ∧ d₁.code = d₂.code := by
  have hc : d₁.code.rank = d₂.code.rank ↔ d₁.code = d₂.code := ⟨Code.rank_injective, congrArg _⟩
  have hl : d₁.location = d₂.location ↔
      d₁.location.line = d₂.location.line ∧ d₁.location.column = d₂.location.column := by
    rw [Location.mk.injEq]
  simp [key, hc, hl, codePoints_injective.eq_iff, columnRank_injective.eq_iff, UInt32.toNat_inj,
    and_assoc]

theorem order_eq_lt_iff : d₁.order d₂ = .lt ↔ d₁.key < d₂.key := by
  simp only [order, Location.order, Code.order, key, Prod.Lex.toLex_lt_toLex, Ordering.then_eq_lt,
    Ordering.then_eq_eq, compare_text_eq_eq_iff, compare_line, compare_column, Nat.compare_eq_lt,
    Nat.compare_eq_eq]
  rw [compare_text_eq_lt_iff]
  tauto

theorem order_eq_eq_iff : d₁.order d₂ = .eq ↔ d₁.key = d₂.key := by
  simp only [order, Location.order, Code.order, key, toLex_inj, Prod.mk.injEq, Ordering.then_eq_eq,
    compare_text_eq_eq_iff, compare_line, compare_column, Nat.compare_eq_eq, and_assoc]

theorem isLE_order_iff : (d₁.order d₂).isLE = true ↔ d₁.key ≤ d₂.key := by
  rw [le_iff_lt_or_eq, ← order_eq_lt_iff, ← order_eq_eq_iff]
  cases d₁.order d₂ <;> decide

theorem filename_le_of_key_le (h : d₁.key ≤ d₂.key) : d₁.filename ≤ d₂.filename :=
  codePoints_strictMono.le_iff_le.mp <| Prod.Lex.monotone_fst _ _ h

theorem filename_eq_of_key_le {d : Diagnostic} (h₁ : d₁.key ≤ d.key) (h₂ : d.key ≤ d₂.key)
    (h : d₁.filename = d₂.filename) : d.filename = d₂.filename :=
  le_antisymm (filename_le_of_key_le h₂) (h ▸ filename_le_of_key_le h₁)

end Diagnostic

end LintReport
