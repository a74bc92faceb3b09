import LintReport.Text.Hex
import Mathlib.Algebra.Group.Nat.Defs

namespace LintReport.Text

theorem hexValue?_digitChar {n : ℕ} (h : n < 16) : hexValue? n.digitChar = some n := by
  revert n; decide

@[simp]
theorem length_hex (width n : ℕ) : (hex width n).length = width := by
  induction width generalizing n <;> simp [hex, *]

theorem ofHex?_concat (cs : List Char) (c : Char) :
    ofHex? (cs ++ [c]) = (ofHex? cs).bind fun n => (hexValue? c).map (16 * n + ·) := by
  simp [ofHex?, List.foldlM_append, Option.bind_eq_bind]

theorem ofHex?_hex {width n : ℕ} (h : n < 16 ^ width) : ofHex? (hex width n) = some n := by
  induction width generalizing n
  case zero => simp [hex, ofHex?, Nat.lt_one_iff.mp h]
  case succ width ih =>
    have hd : n / 16 < 16 ^ width := Nat.div_lt_of_lt_mul <| by rwa [Nat.pow_succ'] at h
    rw [hex, ofHex?_concat, ih hd, hexValue?_digitChar (Nat.mod_lt _ (by decide))]
    simp [Nat.div_add_mod]

end LintReport.Text
