import LintReport.Json.Source
import LintReport.Proofs.Except
import LintReport.Proofs.Text.Hex
import Mathlib.Tactic.SplitIfs

namespace LintReport.Json.Literal

-- What may stand between the quotes of a literal. Surrogates need not come in pairs.
inductive Body : List Char → Prop
  | nil : Body []
  | plain {c : Char} {s : List Char} (hq : c ≠ '"') (hb : c ≠ '\\') (hc : 0x20 ≤ c.toNat)
    (hs : Body s) : Body (c :: s)
  | letter {e : Char} {s : List Char} (he : (unescape? e).isSome) (hs : Body s) :
    Body ('\\' :: e :: s)
  | digits {a b c d : Char} {s : List Char} (hh : (Text.ofHex? [a, b, c, d]).isSome) (hs : Body s) :
    Body ('\\' :: 'u' :: a :: b :: c :: d :: s)

def quoted (s : List Char) : List Char :=
  '"' :: s ++ ['"']

def value (s : List Char) : Chars :=
  (read (s ++ ['"'])).map Prod.fst

variable {a b c d e : Char} {n : ℕ} {s t : List Char}

theorem unit_cons (hh : Text.ofHex? [a, b, c, d] = some n) (t : List Char) :
    unit (a :: b :: c :: d :: t) = .ok (n, t) := by
  simp only [unit, hh]

theorem ne_unicode (he : (unescape? e).isSome) : e ≠ 'u' := by
  rintro rfl
  exact absurd he (by decide)

theorem read_plain (hq : c ≠ '"') (hb : c ≠ '\\') (hc : 0x20 ≤ c.toNat) (t : List Char) :
    read (c :: t) = (read t).map fun (cs, r) => (c :: cs, r) := by
  rw [read.eq_def]
  simp [hq, hb, Nat.not_lt.mpr hc]

theorem read_letter (he : unescape? e = some c) (t : List Char) :
    read ('\\' :: e :: t) = (read t).map fun (cs, r) => (c :: cs, r) := by
  simp [read, ne_unicode (he ▸ rfl : (unescape? e).isSome), he]

theorem read_unicode (t : List Char) :
    read ('\\' :: 'u' :: t) = (do
      let (c, t) ← unicode t
      (read t).map fun (cs, r) => (c :: cs, r)) := by
  rw [read]
  simp only [Char.reduceEq, if_true, if_false]
  split
  case h_1 h => rw [h]; rfl
  case h_2 h => rw [h]; rfl

namespace Body

theorem skip_append (h : Body s) (t : List Char) : skip (s ++ '"' :: t) = .ok t := by
  induction h
  case nil => rw [List.nil_append, skip.eq_def]; rfl
  case plain hq hb hc _ ih =>
    rw [List.cons_append, skip.eq_def]
    simp [hq, hb, Nat.not_lt.mpr hc, ih]
  case letter he _ ih => simp [skip, ne_unicode he, he, ih]
  case digits a b c d s hh _ ih =>
    obtain ⟨n, hn⟩ := Option.isSome_iff_exists.mp hh
    simp only [List.cons_append, skip, Char.reduceEq, if_true, if_false]
    split
    case h_1 hf  => cases (unit_cons hn _).symm.trans hf
    case h_2 hok => cases (unit_cons hn _).symm.trans hok; exact ih

-- Behind a high surrogate there is a unit, or else there is none whatever follows the literal.
theorem second_append (h : Body s) :
    (∃ n r, Body r ∧ r.length < s.length ∧ ∀ t, second (s ++ '"' :: t) = .ok (n, r ++ '"' :: t)) ∨
    ∀ t, second (s ++ '"' :: t) = .error .cutSurrogate := by
  cases h
  case nil => exact .inr fun t => rfl
  case plain c s _ hb _ _ =>
    refine .inr fun t => ?_
    simp [second, hb]
  case letter e s he _ =>
    refine .inr fun t => ?_
    simp [second, ne_unicode he]
  case digits a b c d s hh hs =>
    have ⟨n, hn⟩ := Option.isSome_iff_exists.mp hh
    refine .inl ⟨n, s, hs, by simp +arith, fun t => ?_⟩
    simpa [second] using unit_cons hn (s ++ '"' :: t)

theorem unicode_append (hh : Text.ofHex? [a, b, c, d] = some n) (h : Body s) :
    (∃ x r, Body r ∧ r.length ≤ s.length ∧
      ∀ t, unicode (a :: b :: c :: d :: (s ++ '"' :: t)) = .ok (x, r ++ '"' :: t)) ∨
    ∃ f, ∀ t, unicode (a :: b :: c :: d :: (s ++ '"' :: t)) = .error f := by
  simp only [unicode, unit_cons hh]
  by_cases hl : isLowSurrogate n = true
  case pos => exact .inr ⟨.loneSurrogate, fun t => if_pos hl⟩
  case neg =>
    simp only [hl, Bool.false_eq_true, if_false]
    by_cases hi : isHighSurrogate n = true
    case neg => exact .inl ⟨Char.ofNat n, s, h, Nat.le_refl _, fun t => if_neg hi⟩
    case pos =>
      simp only [hi, if_true]
      obtain ⟨m, r, hr, hle, hm⟩ | he := h.second_append
      case inr => exact .inr ⟨.cutSurrogate, fun t => by rw [he]⟩
      case inl =>
        simp only [hm]
        by_cases hm' : isLowSurrogate m = true
        case pos => exact .inl ⟨ofSurrogates n m, r, hr, Nat.le_of_lt hle, fun t => if_pos hm'⟩
        case neg => exact .inr ⟨.loneSurrogate, fun t => if_neg hm'⟩

theorem exists_read {s : List Char} (h : Body s) :
    ∃ v : Chars, ∀ t, read (s ++ '"' :: t) = v.map (·, t) := by
  cases h
  case nil => exact ⟨.ok [], fun t => by rw [List.nil_append, read.eq_def]; rfl⟩
  case plain c s hq hb hc hs =>
    have ⟨v, hv⟩ := hs.exists_read
    refine ⟨v.map (c :: ·), fun t => ?_⟩
    rw [List.cons_append, read_plain hq hb hc, hv]
    cases v <;> rfl
  case letter e s he hs =>
    have ⟨c, hc⟩ := Option.isSome_iff_exists.mp he
    have ⟨v, hv⟩ := hs.exists_read
    refine ⟨v.map (c :: ·), fun t => ?_⟩
    rw [List.cons_append, List.cons_append, read_letter hc, hv]
    cases v <;> rfl
  case digits a b c d s hh hs =>
    have ⟨n, hn⟩ := Option.isSome_iff_exists.mp hh
    obtain ⟨x, r, hr, _, hx⟩ | ⟨f, hf⟩ := hs.unicode_append hn
    · have ⟨v, hv⟩ := hr.exists_read
      refine ⟨v.map (x :: ·), fun t => ?_⟩
      simp only [List.cons_append, read_unicode, hx, ok_bind, hv]
      cases v <;> rfl
    · refine ⟨.error f, fun t => ?_⟩
      simp only [List.cons_append, read_unicode, hf]
      rfl
termination_by s.length

theorem read_append (h : Body s) (t : List Char) : read (s ++ '"' :: t) = (value s).map (·, t) := by
  have ⟨v, hv⟩ := h.exists_read
  have hs : value s = v := by
    rw [value, hv]
    cases v <;> rfl
  rw [hv, hs]

theorem scanChars_append (h : Body s) (t : List Char) :
    Source.scanChars (s ++ '"' :: t) = .ok (value s, t) := by
  rw [Source.scanChars, h.skip_append, h.read_append]
  cases value s <;> rfl

end Body

theorem escape_forms (c : Char) :
    (∃ e, e ≠ 'u' ∧ unescape? e = some c ∧ escape c = ['\\', e]) ∨
    (c.toNat < 0x20 ∧ escape c = '\\' :: 'u' :: Text.hex 4 c.toNat) ∨
    (c ≠ '"' ∧ c ≠ '\\' ∧ 0x20 ≤ c.toNat ∧ escape c = [c]) := by
  unfold escape
  split_ifs
  case pos h => exact .inl ⟨'"', by decide, by rw [h]; rfl, rfl⟩
  case pos h => exact .inl ⟨'\\', by decide, by rw [h]; rfl, rfl⟩
  case pos h => exact .inl ⟨'b', by decide, by rw [h]; rfl, rfl⟩
  case pos h => exact .inl ⟨'t', by decide, by rw [h]; rfl, rfl⟩
  case pos h => exact .inl ⟨'n', by decide, by rw [h]; rfl, rfl⟩
  case pos h => exact .inl ⟨'f', by decide, by rw [h]; rfl, rfl⟩
  case pos h => exact .inl ⟨'r', by decide, by rw [h]; rfl, rfl⟩
  case pos h => exact .inr <| .inl ⟨h, rfl⟩
  case neg hq hb _ _ _ _ _ hc => exact .inr <| .inr ⟨hq, hb, Nat.not_lt.mp hc, rfl⟩

theorem unicode_hex (h : n < 0x20) (t : List Char) :
    unicode (Text.hex 4 n ++ t) = .ok (Char.ofNat n, t) := by
  have hh := Text.ofHex?_hex <| Nat.lt_trans h (by decide : 0x20 < 16 ^ 4)
  have hl : isLowSurrogate n = false := by simp [isLowSurrogate]; omega
  have hi : isHighSurrogate n = false := by simp [isHighSurrogate]; omega
  simp only [Text.hex, List.nil_append, List.cons_append] at hh ⊢
  simp [unicode, unit_cons hh, hl, hi]

theorem read_escape (c : Char) (t : List Char) :
    read (escape c ++ t) = (read t).map fun (cs, r) => (c :: cs, r) := by
  obtain ⟨e, hu, he, h⟩ | ⟨hc, h⟩ | ⟨hq, hb, hc, h⟩ := escape_forms c <;> rw [h]
  · exact read_letter he t
  · rw [List.cons_append, List.cons_append, read_unicode, unicode_hex hc, Char.ofNat_toNat]
    rfl
  · exact read_plain hq hb hc t

theorem Body.escape_append (h : Body s) (c : Char) : Body (escape c ++ s) := by
  obtain ⟨e, _, he, hf⟩ | ⟨hc, hf⟩ | ⟨hq, hb, hc, hf⟩ := escape_forms c <;> rw [hf]
  · exact .letter (he ▸ rfl) h
  · have hh := Text.ofHex?_hex <| Nat.lt_trans hc (by decide : 0x20 < 16 ^ 4)
    exact .digits (Option.isSome_iff_exists.mpr ⟨_, hh⟩) h
  · exact .plain hq hb hc h

theorem body_flatMap_escape (s : List Char) : Body (s.flatMap escape) := by
  induction s
  case nil          => exact .nil
  case cons c s ih  => exact ih.escape_append c

theorem value_flatMap_escape (s : List Char) : value (s.flatMap escape) = .ok s := by
  have h (s : List Char) : read (s.flatMap escape ++ ['"']) = .ok (s, []) := by
    induction s
    case nil => rw [List.flatMap_nil, List.nil_append, read.eq_def]; rfl
    case cons c s ih => rw [List.flatMap_cons, List.append_assoc, read_escape, ih]; rfl
  rw [value, h]
  rfl

end Literal

end LintReport.Json
