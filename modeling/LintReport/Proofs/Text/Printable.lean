import LintReport.Proofs.Text.Decimal
import LintReport.Proofs.Text.Quoted

namespace LintReport.Text

variable {c x delim : Char} {s : List Char}

theorem isPrintable_iff :
    isPrintable x = true ↔
    controls.has x = false ∧ (isBlank x = true → x = ' ') ∧ zeroWidth.has x = false := by
  by_cases hx : x = ' '
  case pos => subst hx; decide
  case neg => simp [isPrintable, hx, and_assoc]

theorem isPrintable_of_all (h : s.all isPrintable = true) : ∀ x ∈ s, isPrintable x = true :=
  List.all_eq_true.mp h

theorem isPrintable_of_le (hl : 0x20 ≤ x.toNat) (hu : x.toNat ≤ 0x7E) : isPrintable x = true := by
  rw [isPrintable_iff]
  refine ⟨?control, fun h => Char.toNat_inj.mp ?blank, ?width⟩
  case control => simp [controls, Ranges.has]; omega
  case width   => simp [zeroWidth, Ranges.has]; omega
  case blank   =>
    have hb : x.toNat = 0x20 := by simp [isBlank, blanks, Ranges.has] at h; omega
    exact hb

theorem isPrintable_of_mem_toDigits {n : ℕ} (h : x ∈ Nat.toDigits 10 n) : isPrintable x = true := by
  have hd := isDigit_of_mem_toDigits h
  simp only [Char.isDigit, Bool.and_eq_true, decide_eq_true_eq, UInt32.le_iff_toNat_le] at hd
  exact isPrintable_of_le (Nat.le_trans (by decide) hd.left) (Nat.le_trans hd.right (by decide))

theorem isPrintable_of_mem_hex {width n : ℕ} (h : x ∈ hex width n) : isPrintable x = true := by
  induction width generalizing n
  case zero          => cases h
  case succ width ih =>
    have hd : ∀ d < 16, isPrintable d.digitChar = true := by decide
    rw [hex, List.mem_append, List.mem_singleton] at h
    obtain h | rfl := h
    · exact ih h
    · exact hd _ <| Nat.mod_lt _ (by decide)

namespace Quoted

theorem IsQuote.isPrintable (h : IsQuote delim) : Text.isPrintable delim = true := by
  obtain rfl | rfl := h <;> decide

theorem isPrintable_of_mem_codePoint (h : x ∈ codePoint c) : Text.isPrintable x = true := by
  have hm : ∀ x ∈ ['\\', 'x', 'u', 'U'], Text.isPrintable x = true := isPrintable_of_all rfl
  have hc : x ∈ ['\\', 'x', 'u', 'U'] ∨ ∃ width, x ∈ hex width c.toNat := by
    unfold codePoint at h
    split at h
    case isTrue  => grind
    case isFalse => split at h <;> grind
  obtain hx | ⟨width, hx⟩ := hc
  · exact hm x hx
  · exact isPrintable_of_mem_hex hx

theorem isPrintable_of_mem_escape (hd : IsQuote delim) (h : x ∈ escape delim c) :
    Text.isPrintable x = true := by
  have hm : ∀ x ∈ ['\\', 'n', 'r', 't'], Text.isPrintable x = true := isPrintable_of_all rfl
  unfold escape at h
  split_ifs at h with hb hn hr ht hq hp
  · grind
  · grind
  · grind
  · grind
  · have := hd.isPrintable
    grind
  · rwa [List.mem_singleton.mp h]
  · exact isPrintable_of_mem_codePoint h

theorem isPrintable_of_mem_encode (h : x ∈ encode s) : Text.isPrintable x = true := by
  have hd := isQuote_delimiter s
  simp only [encode, List.cons_append, List.mem_cons, List.mem_append, List.mem_flatMap,
    List.not_mem_nil, or_false] at h
  obtain rfl | ⟨c, _, hx⟩ | rfl := h
  · exact hd.isPrintable
  · exact isPrintable_of_mem_escape hd hx
  · exact hd.isPrintable

theorem isPrintable_of_mem_items {ns : List (List Char)}
    (h : x ∈ [',', ' '].intercalate (ns.map encode)) : Text.isPrintable x = true := by
  induction ns
  case nil          => cases h
  case cons n ns ih =>
    cases ns
    case nil       => exact isPrintable_of_mem_encode <| by simpa using h
    case cons m ns =>
      have hm : ∀ x ∈ [',', ' '], Text.isPrintable x = true := isPrintable_of_all rfl
      simp only [List.map_cons, List.intercalate_cons_cons, List.mem_append] at h ih
      obtain (hx | hx) | hx := h
      · exact isPrintable_of_mem_encode hx
      · exact hm x hx
      · exact ih hx

theorem isPrintable_of_mem_encodeList {ns : List (List Char)} (h : x ∈ encodeList ns) :
    Text.isPrintable x = true := by
  have hm : ∀ x ∈ ['[', ']'], Text.isPrintable x = true := isPrintable_of_all rfl
  simp only [encodeList, List.cons_append, List.mem_cons, List.mem_append, List.not_mem_nil,
    or_false] at h
  obtain rfl | hx | rfl := h
  · exact hm _ (by simp)
  · exact isPrintable_of_mem_items hx
  · exact hm _ (by simp)

end Quoted

end LintReport.Text
