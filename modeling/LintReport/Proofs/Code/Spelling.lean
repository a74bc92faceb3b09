import LintReport.Code
import LintReport.Proofs.Text.Trim
import Mathlib.Data.List.Forall2

namespace LintReport

section Casing

variable (x : Char)

theorem toNat_toLower :
    x.toLower.toNat = if 65 ≤ x.toNat ∧ x.toNat ≤ 90 then x.toNat + 32 else x.toNat := by
  have h : 'A'.val ≤ x.val ∧ x.val ≤ 'Z'.val ↔ 65 ≤ x.toNat ∧ x.toNat ≤ 90 :=
    Iff.and UInt32.le_iff_toNat_le UInt32.le_iff_toNat_le
  split
  case isTrue hx =>
    have ⟨hv, hl⟩ : ∃ hv, x.toLower = ⟨x.val + ('a'.val - 'A'.val), hv⟩ := ⟨_, dif_pos (h.mpr hx)⟩
    have hn : x.toLower.toNat = (x.toNat + ('a'.val - 'A'.val).toNat) % 2 ^ 32 := by
      rw [hl]
      exact UInt32.toNat_add ..
    have hd : ('a'.val - 'A'.val).toNat = 32 := by decide
    omega
  case isFalse hx =>
    have hl : x.toLower = x := dif_neg fun h' => hx (h.mp h')
    rw [hl]

theorem toNat_toUpper :
    x.toUpper.toNat = if 97 ≤ x.toNat ∧ x.toNat ≤ 122 then x.toNat - 32 else x.toNat := by
  have h : 'a'.val ≤ x.val ∧ x.val ≤ 'z'.val ↔ 97 ≤ x.toNat ∧ x.toNat ≤ 122 :=
    Iff.and UInt32.le_iff_toNat_le UInt32.le_iff_toNat_le
  split
  case isTrue hx =>
    have ⟨hv, hu⟩ : ∃ hv, x.toUpper = ⟨x.val + ('A'.val - 'a'.val), hv⟩ := ⟨_, dif_pos (h.mpr hx)⟩
    have hn : x.toUpper.toNat = (x.toNat + ('A'.val - 'a'.val).toNat) % 2 ^ 32 := by
      rw [hu]
      exact UInt32.toNat_add ..
    -- The distance is negative and wraps around.
    have hd : ('A'.val - 'a'.val).toNat = 2 ^ 32 - 32 := by decide
    omega
  case isFalse hx =>
    have hu : x.toUpper = x := dif_neg fun h' => hx (h.mp h')
    rw [hu]

end Casing

namespace Code

variable {c : Code} {s : String} {e : Unknown} {n w : List Char} {x y : Char}

def StandsFor (x y : Char) : Prop :=
  x.toLower = y.toLower ∨ x = '-' ∧ y = '_'

instance : DecidableRel StandsFor :=
  fun _ _ => inferInstanceAs <| Decidable (_ ∨ _)

def SpelledBy (c : Code) (w : List Char) : Prop :=
  List.Forall₂ StandsFor w c.name.toList

instance (c : Code) : DecidablePred c.SpelledBy :=
  fun _ => inferInstanceAs <| Decidable (List.Forall₂ ..)

-- The text spells the name of the code once the blanks around it are taken away.
def DenotedBy (c : Code) (s : String) : Prop :=
  ∃ w, Text.Trimmed s.toList w ∧ c.SpelledBy w

def IsNameChar (x : Char) : Prop :=
  65 ≤ x.toNat ∧ x.toNat ≤ 90 ∨ x.toNat = 95

instance : DecidablePred IsNameChar :=
  fun _ => inferInstanceAs <| Decidable (_ ∨ _)

theorem isNameChar_of_mem_name (hx : x ∈ c.name.toList) : IsNameChar x := by
  have h : c.name.toList.all (IsNameChar ·) = true := by cases c <;> rfl
  exact of_decide_eq_true <| List.all_eq_true.mp h x hx

theorem toLower_eq_iff (hy : IsNameChar y) : x.toLower = y.toLower ↔ x.toUpper = y := by
  rw [← Char.toNat_inj, ← Char.toNat_inj, toNat_toLower, toNat_toLower, toNat_toUpper]
  rw [IsNameChar] at hy
  split_ifs <;> omega

def canonicalChar (x : Char) : Char :=
  if x = '-' then '_' else x.toUpper

theorem canonicalSpelling_eq_map (w : List Char) :
    canonicalSpelling w = (Text.trim w).map canonicalChar :=
  rfl

theorem standsFor_iff (hy : IsNameChar y) : StandsFor x y ↔ canonicalChar x = y := by
  rw [StandsFor, toLower_eq_iff hy, canonicalChar]
  split
  case isTrue h =>
    have hn : '-' ≠ y := by rintro rfl; exact absurd hy (by decide)
    simp [h, hn, eq_comm]
  case isFalse h => simp [h]

theorem forall₂_standsFor_iff (hn : ∀ y ∈ n, IsNameChar y) :
    List.Forall₂ StandsFor w n ↔ w.map canonicalChar = n := by
  induction n generalizing w
  case nil => simp
  case cons y n ih =>
    have ⟨hy, hn⟩ := List.forall_mem_cons.mp hn
    cases w
    case nil      => simp
    case cons x w => rw [List.forall₂_cons, List.map_cons, List.cons.injEq, standsFor_iff hy, ih hn]

theorem spelledBy_iff : c.SpelledBy w ↔ w.map canonicalChar = c.name.toList :=
  forall₂_standsFor_iff fun _ => isNameChar_of_mem_name

theorem spelledBy_name (c : Code) : c.SpelledBy c.name.toList :=
  List.forall₂_same.mpr fun _ _ => .inl rfl

theorem denotedBy_iff : c.DenotedBy s ↔ canonicalSpelling s.toList = c.name.toList := by
  simp only [DenotedBy, ← Text.trim_eq_iff, exists_eq_left', spelledBy_iff, canonicalSpelling_eq_map]

theorem not_isBlank_of_canonicalChar (h : IsNameChar (canonicalChar x)) : Text.isBlank x = false := by
  refine Bool.eq_false_iff.mpr fun hb => ?_
  have hn : x ≠ '-' := by rintro rfl; cases hb
  rw [canonicalChar, if_neg hn, IsNameChar, toNat_toUpper] at h
  -- What shows in names lies between the blanks.
  have := Text.toNat_of_isBlank hb
  split at h <;> omega

namespace SpelledBy

theorem not_isBlank (h : c.SpelledBy w) (hx : x ∈ w) : Text.isBlank x = false := by
  have hc : canonicalChar x ∈ c.name.toList := spelledBy_iff.mp h ▸ List.mem_map_of_mem hx
  exact not_isBlank_of_canonicalChar <| isNameChar_of_mem_name hc

theorem tight (h : c.SpelledBy w) : Text.Tight w where
  head _ hx := h.not_isBlank <| List.mem_of_mem_head? hx
  last _ hx := h.not_isBlank <| List.mem_of_mem_getLast? hx

theorem denotedBy {b a : String} (h : c.SpelledBy s.toList) (hb : Text.Blanks b.toList)
    (ha : Text.Blanks a.toList) : c.DenotedBy (b ++ s ++ a) := by
  refine ⟨s.toList, ?_, h⟩
  rw [String.toList_append, String.toList_append]
  exact .intro hb h.tight ha

end SpelledBy

theorem find?_catalog (c : Code) : catalog.find? (·.name.toList == c.name.toList) = some c := by
  cases c <;> rfl

theorem ofSpelling_eq_ok_iff : ofSpelling s = .ok c ↔ c.DenotedBy s := by
  rw [denotedBy_iff, ofSpelling]
  constructor
  case mp =>
    split
    case h_1 d hd =>
      rintro ⟨⟩
      have hn := List.find?_some hd
      exact (beq_iff_eq.mp hn).symm
    case h_2 => exact nofun
  case mpr =>
    intro h
    rw [h, find?_catalog]

theorem eq_of_ofSpelling_eq_error (h : ofSpelling s = .error e) : e = ⟨s⟩ := by
  rw [ofSpelling] at h
  split at h
  case h_1 => cases h
  case h_2 => cases h; rfl

theorem ofSpelling_eq_error_iff :
    ofSpelling s = .error e ↔ e = ⟨s⟩ ∧ ∀ c : Code, ¬c.DenotedBy s := by
  simp only [← ofSpelling_eq_ok_iff]
  constructor
  case mp  => exact fun h => ⟨eq_of_ofSpelling_eq_error h, fun c hc => nomatch h.symm.trans hc⟩
  case mpr =>
    rintro ⟨rfl, hn⟩
    cases h : ofSpelling s
    case ok c    => exact absurd h (hn c)
    case error e => rw [eq_of_ofSpelling_eq_error h]

-- A text is read as a code if and only if it denotes that code, and then it denotes no other one. All
-- other texts are handed back unchanged. So every code is read from its name, however the name is spelled
-- and whatever blanks are around it.
theorem ofSpelling_reads_spellings :
    (∀ (s : String) (c : Code), ofSpelling s = .ok c ↔ c.DenotedBy s) ∧
    (∀ (s : String) (c c' : Code), c.DenotedBy s → c'.DenotedBy s → c = c') ∧
    (∀ (s : String) (e : Unknown),
      ofSpelling s = .error e ↔ e = ⟨s⟩ ∧ ∀ c : Code, ¬c.DenotedBy s) ∧
    (∀ c : Code, ofSpelling c.name = .ok c) ∧
    ∀ (c : Code) (before spelling after : String), c.SpelledBy spelling.toList →
      Text.Blanks before.toList → Text.Blanks after.toList →
      ofSpelling (before ++ spelling ++ after) = .ok c := by
  refine ⟨fun _ _ => ofSpelling_eq_ok_iff, fun s c c' h h' => ?one,
    fun _ _ => ofSpelling_eq_error_iff, fun c => ?name, fun c before spelling after h hb ha => ?padded⟩
  case one =>
    rw [← ofSpelling_eq_ok_iff] at h h'
    exact Except.ok.inj <| h.symm.trans h'
  case name =>
    have h := (spelledBy_name c).denotedBy (b := "") (a := "") nofun nofun
    rwa [String.empty_append, String.append_empty, ← ofSpelling_eq_ok_iff] at h
  case padded => exact ofSpelling_eq_ok_iff.mpr <| h.denotedBy hb ha

-- A no-break space is among the blanks around the first text. The second one has a dotless i, whose capital
-- is the letter of the name, but not within ASCII.
theorem ofSpelling_reads_spellings_padded :
    importStarUsed.SpelledBy "Import-star_used".toList ∧
    Text.Blanks "\u00a0 ".toList ∧ Text.Blanks "\n".toList ∧
    ofSpelling ("\u00a0 " ++ "Import-star_used" ++ "\n") = .ok .importStarUsed ∧
    ∀ c : Code, ¬c.DenotedBy "unused_\u0131mport" := by
  have ⟨_, _, he, _, hp⟩ := ofSpelling_reads_spellings
  have hs : importStarUsed.SpelledBy "Import-star_used".toList := by decide
  have hb : Text.Blanks "\u00a0 ".toList := by decide
  have ha : Text.Blanks "\n".toList := by decide
  exact ⟨hs, hb, ha, hp _ _ _ _ hs hb ha, ((he _ _).mp rfl).right⟩

end Code

end LintReport
