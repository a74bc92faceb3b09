import Mathlib.Data.List.Induction
import Mathlib.Data.List.Nodup
import Mathlib.Data.List.Perm.Basic

namespace LintReport

variable {α : Type} [DecidableEq α] {x : α} {xs : List α}

theorem eraseDups_concat :
    (xs ++ [x]).eraseDups = if x ∈ xs then xs.eraseDups else xs.eraseDups ++ [x] := by
  by_cases hx : x ∈ xs <;>
    simp [hx, List.eraseDups_append, List.removeAll, List.eraseDups_cons]

theorem eraseDups_append_cons {ys : List α} (h : x ∈ xs) :
    (xs ++ x :: ys).eraseDups = (xs ++ ys).eraseDups := by
  rw [List.eraseDups_append, List.eraseDups_append, List.removeAll, List.removeAll,
    List.filter_cons_of_neg (by simpa using h)]

theorem eraseDups_sublist : xs.eraseDups.Sublist xs := by
  induction xs using List.reverseRecOn
  case nil => exact .slnil
  case append_singleton xs x ih =>
    rw [eraseDups_concat]
    split
    case isTrue  => exact ih.trans (List.sublist_append_left xs [x])
    case isFalse => exact ih.append_right [x]

theorem nodup_eraseDups : xs.eraseDups.Nodup := by
  induction xs using List.reverseRecOn
  case nil => exact .nil
  case append_singleton xs x ih =>
    rw [eraseDups_concat]
    split
    case isTrue     => exact ih
    case isFalse hx =>
      rw [← List.concat_eq_append, List.nodup_concat]
      exact ⟨mt List.mem_eraseDups.mp hx, ih⟩

theorem filter_eraseDups (p : α → Bool) : xs.eraseDups.filter p = (xs.filter p).eraseDups := by
  induction xs using List.reverseRecOn
  case nil => rfl
  case append_singleton xs x ih =>
    rw [List.filter_append, eraseDups_concat]
    by_cases hp : p x = true
    case pos =>
      have hx : [x].filter p = [x] := List.filter_cons_of_pos hp
      rw [hx, eraseDups_concat, ← ih]
      by_cases hm : x ∈ xs <;> simp [hm, hp]
    case neg => by_cases hm : x ∈ xs <;> simp [hm, hp, ih]

theorem length_eraseDups_eq_iff : xs.eraseDups.length = xs.length ↔ xs.Nodup := by
  constructor
  case mp =>
    intro h
    rw [← eraseDups_sublist.eq_of_length h]
    exact nodup_eraseDups
  case mpr =>
    intro h
    exact (List.perm_ext_iff_of_nodup nodup_eraseDups h).mpr (fun _ => List.mem_eraseDups) |>.length_eq

theorem eraseDups_eq_self (h : xs.Nodup) : xs.eraseDups = xs :=
  eraseDups_sublist.eq_of_length <| length_eraseDups_eq_iff.mpr h

end LintReport
