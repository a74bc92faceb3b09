import LintReport.Text.Blank
import Mathlib.Data.List.DropRight

namespace LintReport.Text

variable {s t b a : List Char}

def Blanks (s : List Char) : Prop :=
  ∀ c ∈ s, isBlank c = true

instance (s : List Char) : Decidable (Blanks s) :=
  decidable_of_iff (s.all isBlank = true) List.all_eq_true

-- The blanks lie below and above the ASCII characters that show.
theorem toNat_of_isBlank {c : Char} (h : isBlank c = true) : c.toNat ≤ 0x20 ∨ 0x85 ≤ c.toNat := by
  have ⟨r, hr, hl, hu⟩ := Ranges.has_iff.mp h
  have hb : ∀ r ∈ blanks, r.2 ≤ 0x20 ∨ 0x85 ≤ r.1 := by decide
  have := hb r hr
  omega

structure Tight (s : List Char) : Prop where
  head : ∀ c ∈ s.head?, isBlank c = false
  last : ∀ c ∈ s.getLast?, isBlank c = false

inductive Trimmed : List Char → List Char → Prop
  | intro {b t a : List Char} (hb : Blanks b) (ht : Tight t) (ha : Blanks a) : Trimmed (b ++ t ++ a) t

theorem trim_eq_rdropWhile (s : List Char) :
    trim s = (s.dropWhile isBlank).rdropWhile isBlank :=
  rfl

theorem Blanks.trim_append (hb : Blanks b) (s : List Char) : trim (b ++ s) = trim s := by
  rw [trim, List.dropWhile_append_of_pos hb, trim]

theorem Blanks.rdropWhile_append (ha : Blanks a) (s : List Char) :
    (s ++ a).rdropWhile isBlank = s.rdropWhile isBlank := by
  rw [List.rdropWhile, List.reverse_append, List.dropWhile_append_of_pos, List.rdropWhile]
  exact fun c hc => ha c (List.mem_reverse.mp hc)

theorem Blanks.trim_append_right (ha : Blanks a) (s : List Char) : trim (s ++ a) = trim s := by
  rw [trim_eq_rdropWhile, trim_eq_rdropWhile, List.dropWhile_append]
  split
  case isTrue h =>
    -- Nothing but blanks is left of either text.
    rw [List.isEmpty_iff.mp h, List.dropWhile_eq_nil_iff.mpr ha]
  case isFalse => exact ha.rdropWhile_append _

theorem Tight.trim_eq (h : Tight s) : trim s = s := by
  have hd : s.dropWhile isBlank = s := by
    cases s
    case nil      => rfl
    case cons c s => simp [h.head c rfl]
  rw [trim_eq_rdropWhile, hd, List.rdropWhile_eq_self_iff]
  intro hs
  simp [h.last _ (List.getLast?_eq_some_getLast hs)]

theorem Trimmed.trim_eq (h : Trimmed s t) : trim s = t := by
  obtain ⟨hb, ht, ha⟩ := h
  rw [ha.trim_append_right, hb.trim_append, ht.trim_eq]

theorem tight_trim (s : List Char) : Tight (trim s) := by
  rw [trim_eq_rdropWhile]
  refine ⟨fun c hc => ?head, fun c hc => ?last⟩
  case head =>
    obtain ⟨r, hr⟩ := List.rdropWhile_prefix isBlank (s.dropWhile isBlank)
    have hd : (s.dropWhile isBlank).head? = some c := hr ▸ List.mem_head?_append_of_mem_head? hc
    simpa [hd] using List.head?_dropWhile_not isBlank s
  case last =>
    obtain ⟨hn, rfl⟩ := List.mem_getLast?_eq_getLast hc
    simpa using List.rdropWhile_last_not isBlank _ hn

theorem trimmed_trim (s : List Char) : Trimmed s (trim s) := by
  have hb : Blanks (s.takeWhile isBlank) := fun _ => List.mem_takeWhile_imp
  have ha : Blanks ((s.dropWhile isBlank).rtakeWhile isBlank) := fun _ => List.mem_rtakeWhile_imp
  have h := Trimmed.intro hb (tight_trim s) ha
  rwa [trim_eq_rdropWhile, List.append_assoc, List.rdropWhile_append_rtakeWhile,
    List.takeWhile_append_dropWhile] at h

theorem trim_eq_iff : trim s = t ↔ Trimmed s t :=
  ⟨fun h => h ▸ trimmed_trim s, Trimmed.trim_eq⟩

end LintReport.Text
