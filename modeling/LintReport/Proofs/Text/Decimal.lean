import Mathlib.Data.Nat.Notation

namespace LintReport.Text

def NoDigit (s : List Char) : Prop :=
  ∀ c ∈ s.head?, c.isDigit = false

variable {n m : ℕ} {r s : List Char}

theorem isDigit_of_mem_toDigits {c : Char} (h : c ∈ Nat.toDigits 10 n) : c.isDigit = true :=
  Nat.isDigit_of_mem_toDigits (by decide) (by decide) h

namespace NoDigit

theorem takeWhile_eq (h : NoDigit s) : s.takeWhile Char.isDigit = [] := by
  cases s
  case nil      => rfl
  case cons c s => simp [h c rfl]

theorem dropWhile_eq (h : NoDigit s) : s.dropWhile Char.isDigit = s := by
  cases s
  case nil      => rfl
  case cons c s => simp [h c rfl]

theorem takeWhile_toDigits (h : NoDigit s) :
    (Nat.toDigits 10 n ++ s).takeWhile Char.isDigit = Nat.toDigits 10 n := by
  rw [List.takeWhile_append_of_pos fun _ => isDigit_of_mem_toDigits, h.takeWhile_eq, List.append_nil]

theorem dropWhile_toDigits (h : NoDigit s) :
    (Nat.toDigits 10 n ++ s).dropWhile Char.isDigit = s := by
  rw [List.dropWhile_append_of_pos fun _ => isDigit_of_mem_toDigits, h.dropWhile_eq]

theorem toDigits_append_inj (hr : NoDigit r) (hs : NoDigit s)
    (h : Nat.toDigits 10 m ++ r = Nat.toDigits 10 n ++ s) : m = n ∧ r = s := by
  have hd : Nat.toDigits 10 m = Nat.toDigits 10 n := by
    rw [← hr.takeWhile_toDigits, h, hs.takeWhile_toDigits]
  constructor
  case left  => rw [← Nat.ofDigitChars_ten_toDigits (n := m), hd, Nat.ofDigitChars_ten_toDigits]
  case right => rw [← hr.dropWhile_toDigits (n := m), h, hs.dropWhile_toDigits]

end NoDigit

theorem eq_zero_of_head?_toDigits (h : (Nat.toDigits 10 n).head? = some '0') : n = 0 := by
  induction n using Nat.strongRecOn
  case ind n ih =>
    by_cases hn : n < 10
    case pos => simpa [Nat.toDigits_of_lt_base hn] using h
    case neg =>
      rw [Nat.toDigits_of_base_le (by decide) (Nat.not_lt.mp hn), List.head?_append] at h
      rw [List.head?_eq_some_head Nat.toDigits_ne_nil, Option.some_or,
        ← List.head?_eq_some_head Nat.toDigits_ne_nil] at h
      have := ih (n / 10) (by omega) h
      omega

end LintReport.Text
