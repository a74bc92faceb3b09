import LintReport.Json.Numeral
import LintReport.Proofs.Except
import LintReport.Proofs.Text.Decimal
import Mathlib.Algebra.Ring.Int.Defs

namespace LintReport.Json.Numeral

open Text (NoDigit)

def IsDigits (s : List Char) : Prop :=
  s ≠ [] ∧ ∀ c ∈ s, c.isDigit = true

inductive SpellsWhole : List ℕ → List Char → Prop
  | zero : SpellsWhole [0] ['0']
  | digits {s : List Char} (h : IsDigits s) (hz : s.head? ≠ some '0') : SpellsWhole (s.map digit) s

inductive SpellsFraction : List ℕ → List Char → Prop
  | none : SpellsFraction [] []
  | digits {s : List Char} (h : IsDigits s) : SpellsFraction (s.map digit) ('.' :: s)

inductive SpellsSign : Bool → List Char → Prop
  | none  : SpellsSign false []
  | plus  : SpellsSign false ['+']
  | minus : SpellsSign true ['-']

inductive SpellsExponent : Option (Bool × List ℕ) → List Char → Prop
  | none : SpellsExponent none []
  | digits {negative : Bool} {c : Char} {sign s : List Char} (hc : c = 'e' ∨ c = 'E')
    (hs : SpellsSign negative sign) (h : IsDigits s) :
    SpellsExponent (some (negative, s.map digit)) (c :: sign ++ s)

inductive SpellsUnsigned : Numeral → List Char → Prop
  | intro {negative : Bool} {whole fraction : List ℕ} {exponent : Option (Bool × List ℕ)}
    {w f e : List Char} (hw : SpellsWhole whole w) (hf : SpellsFraction fraction f)
    (he : SpellsExponent exponent e) :
    SpellsUnsigned ⟨negative, whole, fraction, exponent⟩ (w ++ (f ++ e))

inductive Spells : Numeral → List Char → Prop
  | unsigned {n : Numeral} {s : List Char} (h : SpellsUnsigned n s) (hn : n.negative = false) :
    Spells n s
  | negative {n : Numeral} {s : List Char} (h : SpellsUnsigned n s) (hn : n.negative = true) :
    Spells n ('-' :: s)

def Stops (s : List Char) : Prop :=
  ∀ c ∈ s.head?, c.isDigit = false ∧ c ≠ '.' ∧ c ≠ 'e' ∧ c ≠ 'E'

def ofDigits (negative : Bool) (n : ℕ) : Numeral :=
  ⟨negative, (Nat.toDigits 10 n).map digit, [], none⟩

def ofInt (i : ℤ) : Numeral :=
  ofDigits (i < 0) i.natAbs

variable {n w : ℕ} {r s : List Char}

namespace IsDigits

theorem toDigits : IsDigits (Nat.toDigits 10 n) :=
  ⟨Nat.toDigits_ne_nil, fun _ => Text.isDigit_of_mem_toDigits⟩

theorem digits_append (h : IsDigits s) (hr : NoDigit r) : digits (s ++ r) = (s.map digit, r) := by
  rw [digits, List.takeWhile_append_of_pos h.right, List.dropWhile_append_of_pos h.right,
    hr.takeWhile_eq, hr.dropWhile_eq, List.append_nil]

theorem map_digit_ne_nil (h : IsDigits s) : s.map digit ≠ [] :=
  mt List.map_eq_nil_iff.mp h.left

end IsDigits

theorem SpellsWhole.toDigits : SpellsWhole ((Nat.toDigits 10 n).map digit) (Nat.toDigits 10 n) := by
  by_cases hn : n = 0
  case pos => subst hn; exact .zero
  case neg => exact .digits .toDigits <| mt Text.eq_zero_of_head?_toDigits hn

theorem SpellsWhole.isDigits {whole : List ℕ} (h : SpellsWhole whole s) : IsDigits s := by
  cases h
  case zero       => exact ⟨List.cons_ne_nil _ _, by simp⟩
  case digits h _ => exact h

namespace Stops

theorem noDigit (h : Stops s) : NoDigit s :=
  fun c hc => (h c hc).left

theorem scanExponent_eq (h : Stops s) : scanExponent s = .ok (none, s) := by
  cases s
  case nil      => rfl
  case cons c s =>
    have ⟨_, _, he, hE⟩ := h c rfl
    simp [scanExponent, he, hE]

end Stops

theorem SpellsWhole.scan {whole : List ℕ} (h : SpellsWhole whole s) (hr : NoDigit r) :
    scanWhole (s ++ r) = .ok (whole, r) := by
  cases h
  case zero =>
    cases r
    case nil      => rfl
    case cons c r => simp [scanWhole, hr c rfl]
  case digits h hz =>
    unfold scanWhole
    split
    case h_1 hs =>
      have ⟨c, t, ht⟩ := List.exists_cons_of_ne_nil h.left
      rw [ht, List.cons_append, List.cons.injEq] at hs
      exact absurd (by rw [ht, hs.left]; rfl) hz
    case h_2 =>
      rw [h.digits_append hr]
      split
      case h_1 hd => exact absurd (congrArg Prod.fst hd) h.map_digit_ne_nil
      case h_2    => rfl

theorem SpellsFraction.scan {fraction : List ℕ} (h : SpellsFraction fraction s) (hr : NoDigit r)
    (hp : r.head? ≠ some '.') : scanFraction (s ++ r) = .ok (fraction, r) := by
  cases h
  case none =>
    rw [List.nil_append]
    unfold scanFraction
    split
    case h_1 => exact absurd rfl hp
    case h_2 => rfl
  case digits s h =>
    rw [List.cons_append, scanFraction, h.digits_append hr]
    split
    case h_1 hd => exact absurd (congrArg Prod.fst hd) h.map_digit_ne_nil
    case h_2    => rfl

theorem SpellsSign.sign_append {negative : Bool} {sign : List Char} (h : SpellsSign negative sign)
    (hs : IsDigits s) (r : List Char) :
    scanExponent.sign (sign ++ (s ++ r)) = (negative, s ++ r) := by
  cases h
  case plus | minus => rfl
  case none =>
    have ⟨c, t, ht⟩ := List.exists_cons_of_ne_nil hs.left
    have hc : c.isDigit = true := hs.right c (ht ▸ List.mem_cons_self)
    rw [List.nil_append, ht, List.cons_append]
    unfold scanExponent.sign
    split
    case h_1 he => cases he; cases hc
    case h_2 he => cases he; cases hc
    case h_3    => rfl

theorem SpellsExponent.scan {exponent : Option (Bool × List ℕ)} (h : SpellsExponent exponent s)
    (hr : Stops r) : scanExponent (s ++ r) = .ok (exponent, r) := by
  cases h
  case none => exact hr.scanExponent_eq
  case digits sign s hc hs h =>
    rw [List.append_assoc, List.cons_append, scanExponent, if_pos hc]
    simp only [hs.sign_append h, h.digits_append hr.noDigit]
    split
    case h_1 hd => exact absurd (congrArg Prod.fst hd) h.map_digit_ne_nil
    case h_2 hd => cases hd; rfl

theorem SpellsExponent.head_append {exponent : Option (Bool × List ℕ)} (h : SpellsExponent exponent s)
    (hr : Stops r) : NoDigit (s ++ r) ∧ (s ++ r).head? ≠ some '.' := by
  cases h
  case none => exact ⟨hr.noDigit, fun hp => (hr '.' hp).right.left rfl⟩
  case digits c sign s hc _ _ =>
    constructor
    case left =>
      intro x hx
      cases hx
      obtain rfl | rfl := hc <;> rfl
    case right => obtain rfl | rfl := hc <;> simp

theorem SpellsFraction.noDigit_append {fraction : List ℕ} (h : SpellsFraction fraction s)
    (hr : NoDigit r) : NoDigit (s ++ r) := by
  cases h
  case none   => exact hr
  case digits => exact fun c hc => by cases hc; rfl

theorem SpellsUnsigned.scan_append {n : Numeral} (h : SpellsUnsigned n s) (hr : Stops r) :
    scan n.negative (s ++ r) = .ok (n, r) := by
  have .intro hw hf he := h
  have ⟨hn, hp⟩ := he.head_append hr
  simp only [scan, List.append_assoc, hw.scan (hf.noDigit_append hn), ok_bind, hf.scan hn hp,
    he.scan hr]
  rfl

theorem spellsUnsigned_toDigits (negative : Bool) :
    SpellsUnsigned (ofDigits negative n) (Nat.toDigits 10 n) := by
  have h : SpellsUnsigned (ofDigits negative n) (Nat.toDigits 10 n ++ ([] ++ [])) :=
    .intro .toDigits .none .none
  rwa [List.append_nil, List.append_nil] at h

theorem le_foldl (ds : List ℕ) : w ≤ ds.foldl (fun n d => n * 10 + d) w := by
  induction ds generalizing w
  case nil => exact Nat.le_refl w
  case cons d ds ih =>
    have hw : w ≤ w * 10 + d := by omega
    exact Nat.le_trans hw ih

theorem absorb_eq {ds : List ℕ} (h : ds.foldl (fun n d => n * 10 + d) w < Nat.pow 2 64) :
    absorb w ds = (ds.foldl (fun n d => n * 10 + d) w, []) := by
  induction ds generalizing w
  case nil => rfl
  case cons d ds ih =>
    rw [absorb, if_pos (Nat.lt_of_le_of_lt (le_foldl ds) h), ih h, List.foldl_cons]

theorem foldl_digit_toDigits :
    ((Nat.toDigits 10 n).map digit).foldl (fun n d => n * 10 + d) 0 = n := by
  have h := Nat.ofDigitChars_ten_toDigits (n := n)
  rw [Nat.ofDigitChars_eq_foldl] at h
  simpa only [List.foldl_map, digit, Nat.mul_comm 10] using h

theorem value_ofInt {i : ℤ} (hl : -2 ^ 63 ≤ i) (hu : i < 2 ^ 64) :
    (ofInt i).value = .ok (.integer i) := by
  have hw : i.natAbs < Nat.pow 2 64 := by
    have hp : Nat.pow 2 64 = 2 ^ 64 := rfl
    omega
  have ha : absorb 0 (ofInt i).whole = (i.natAbs, []) := by
    rw [ofInt, ofDigits, absorb_eq (by rwa [foldl_digit_toDigits]), foldl_digit_toDigits]
  have hc : !(ofInt i).negative ∨ (i.natAbs ≠ 0 ∧ i.natAbs ≤ Nat.pow 2 63) := by
    have hp : Nat.pow 2 63 = 2 ^ 63 := rfl
    simp only [ofInt, ofDigits, Bool.not_eq_true', decide_eq_false_iff_not]
    omega
  have hi : (if (ofInt i).negative then -(i.natAbs : ℤ) else i.natAbs) = i := by
    simp only [ofInt, ofDigits, decide_eq_true_eq]
    omega
  simp only [value, ha]
  rw [if_pos ⟨rfl, rfl, rfl, hc⟩, hi]
  rfl

end LintReport.Json.Numeral
