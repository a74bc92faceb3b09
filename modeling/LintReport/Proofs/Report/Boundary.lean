import LintReport.Report.Boundary
import Mathlib.Data.List.Basic
import Mathlib.Order.Basic

namespace LintReport

variable {α : Type} {p q : α → Bool} {xs : List α} {n : ℕ}

theorem holdsAt_mono (h : ∀ x, p x = true → q x = true) {i : ℕ} (hp : holdsAt p xs i = true) :
    holdsAt q xs i = true := by
  rw [holdsAt, Option.any_eq_true] at hp ⊢
  have ⟨x, hx, hp⟩ := hp
  exact ⟨x, hx, h x hp⟩

theorem lt_length_of_holdsAt {i : ℕ} (h : holdsAt p xs i = true) : i < xs.length := by
  rw [holdsAt, Option.any_eq_true] at h
  have ⟨_, hx, _⟩ := h
  exact (List.getElem?_eq_some_iff.mp hx).choose

theorem le_narrow (size base : ℕ) : base ≤ narrow p xs size base := by
  fun_induction narrow p xs size base
  case case1 size base _ mid ih =>
    rw [dite_eq_ite] at ih
    exact Nat.le_trans (by split <;> omega) ih
  case case2 => exact Nat.le_refl _

theorem narrow_le (size base : ℕ) : narrow p xs size base ≤ base + (size - 1) := by
  fun_induction narrow p xs size base
  case case1 size base _ mid ih =>
    rw [dite_eq_ite] at ih
    exact Nat.le_trans ih (by split <;> omega)
  case case2 => exact Nat.le_add_right _ _

-- Two searches look at the same places, until only the one for the weaker property goes on to the upper
-- half. From then on they have no more than the first place of that half in common, so that they do not
-- cross, whatever they see.
theorem narrow_le_narrow (h : ∀ x, p x = true → q x = true) (size base : ℕ) :
    narrow p xs size base ≤ narrow q xs size base := by
  fun_induction narrow p xs size base
  case case1 size base hs mid ih =>
    rw [dite_eq_ite] at ih
    have hq : narrow q xs size base =
        narrow q xs (size - size / 2) (if holdsAt q xs mid then mid else base) := by
      rw [narrow, if_pos hs]
    rw [hq]
    by_cases hp : holdsAt p xs mid = true
    case pos => simpa only [if_pos hp, if_pos (holdsAt_mono h hp)] using ih
    case neg =>
      rw [if_neg hp] at ih ⊢
      split
      case isFalse => exact ih
      case isTrue  =>
        calc narrow p xs (size - size / 2) base
          _ ≤ base + (size - size / 2 - 1)      := narrow_le _ _
          _ ≤ mid                               := by omega
          _ ≤ narrow q xs (size - size / 2) mid := le_narrow _ _
  case case2 => exact le_narrow _ _

theorem boundary_le_length : boundary p xs ≤ xs.length := by
  simp only [boundary]
  split
  case isTrue h => exact lt_length_of_holdsAt h
  case isFalse  => exact Nat.le_trans (narrow_le xs.length 0) (by omega)

theorem boundary_le_boundary (h : ∀ x, p x = true → q x = true) : boundary p xs ≤ boundary q xs := by
  have hn : narrow p xs xs.length 0 ≤ narrow q xs xs.length 0 := narrow_le_narrow h _ _
  simp only [boundary]
  cases Nat.eq_or_lt_of_le hn
  case inl he =>
    rw [← he]
    split
    case isTrue hp => exact Nat.le_of_eq (if_pos (holdsAt_mono h hp)).symm
    case isFalse   => split <;> omega
  case inr => split <;> split <;> omega

-- Out of order, 1 stands behind the first of these boundaries as well, and 3 before the second.
example : boundary (· < 2) [1, 3, 2, 1] = 1 ∧ boundary (· ≤ 2) [1, 3, 2, 1] = 4 := by
  decide +kernel

theorem holdsAt_append_length_sub_one {xs ys : List α} (h : xs ≠ []) :
    holdsAt p (xs ++ ys) (xs.length - 1) = p (xs.getLast h) := by
  have hl : xs.length - 1 < xs.length := Nat.sub_one_lt <| mt List.length_eq_zero_iff.mp h
  simp [holdsAt, List.getElem?_append_left hl, List.getElem?_eq_getElem hl, List.getLast_eq_getElem]

theorem holdsAt_append_length {xs ys : List α} :
    holdsAt p (xs ++ ys) xs.length = ys.head?.any p := by
  simp [holdsAt, List.getElem?_append_right, List.head?_eq_getElem?]

-- The place where the property stops to hold stays within the part of the list that is still looked
-- at, and so does the place before it unless that is the start of the list.
theorem narrow_bounds (h : ∀ i, holdsAt p xs i = true ↔ i < n) (size base : ℕ)
    (hl : base = 0 ∨ base < n) (hu : n ≤ base + size) :
    n ≤ narrow p xs size base + 1 ∧ (narrow p xs size base = 0 ∨ narrow p xs size base < n) := by
  fun_induction narrow p xs size base
  case case1 size base hs mid ih =>
    simp only [dite_eq_ite] at ih
    by_cases hp : holdsAt p xs mid = true
    case pos =>
      simp only [if_pos hp] at ih ⊢
      exact ih (.inr <| (h mid).mp hp) (by omega)
    case neg =>
      have hm : n ≤ mid := Nat.not_lt.mp <| mt (h mid).mpr hp
      simp only [if_neg hp] at ih ⊢
      exact ih hl (by omega)
  case case2 => exact ⟨by omega, hl⟩

theorem boundary_eq_of_holdsAt_iff (h : ∀ i, holdsAt p xs i = true ↔ i < n) :
    boundary p xs = n := by
  have hn : n ≤ xs.length := by
    by_contra hc
    have := (h xs.length).mpr (Nat.not_le.mp hc)
    simp [holdsAt] at this
  have ⟨hu, hl⟩ := narrow_bounds h xs.length 0 (.inl rfl) (by omega)
  simp only [boundary]
  by_cases hb : narrow p xs xs.length 0 < n
  case pos => rw [if_pos ((h _).mpr hb)]; omega
  case neg => rw [if_neg (mt (h _).mp hb)]; omega

def Parted (p : α → Bool) (xs : List α) : Prop :=
  xs.Pairwise fun x y => p y = true → p x = true

namespace Parted

theorem filter_append_filter_not (h : Parted p xs) : xs.filter p ++ xs.filter (!p ·) = xs := by
  induction h
  case nil => rfl
  case cons x xs hx _ ih =>
    by_cases hp : p x = true
    case pos => simp [hp, ih]
    case neg =>
      have hn : xs.filter p = [] := List.filter_eq_nil_iff.mpr fun y hy => mt (hx y hy) hp
      simpa [hp, hn] using ih

theorem holdsAt_iff (h : Parted p xs) (i : ℕ) :
    holdsAt p xs i = true ↔ i < (xs.filter p).length := by
  conv_lhs => rw [← h.filter_append_filter_not, holdsAt]
  by_cases hi : i < (xs.filter p).length
  case pos =>
    have hm := List.mem_filter.mp <| List.getElem_mem hi
    simp [List.getElem?_append_left hi, hi, hm.2]
  case neg =>
    have hn : ∀ x, (xs.filter (!p ·))[i - (xs.filter p).length]? = some x → p x = false :=
      fun x hx => by simpa using (List.mem_filter.mp <| List.mem_of_getElem? hx).2
    simpa [List.getElem?_append_right (Nat.not_lt.mp hi), hi, Option.any_eq_false] using hn

theorem boundary_eq (h : Parted p xs) : boundary p xs = (xs.filter p).length :=
  boundary_eq_of_holdsAt_iff h.holdsAt_iff

theorem drop_boundary (h : Parted p xs) : xs.drop (boundary p xs) = xs.filter (!p ·) := by
  conv_lhs => rw [h.boundary_eq, ← h.filter_append_filter_not]
  exact List.drop_left' (by simp)

end Parted

end LintReport
