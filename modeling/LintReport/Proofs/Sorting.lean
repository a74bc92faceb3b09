import Mathlib.Data.List.Pairwise
import Mathlib.Data.List.Perm.Basic
import Mathlib.Order.Lattice

namespace LintReport

variable {α κ : Type} [LinearOrder κ]

def sortBy (key : α → κ) (xs : List α) : List α :=
  xs.mergeSort fun x y => key x ≤ key y

def insertBy (key : α → κ) (x : α) (xs : List α) : List α :=
  xs.filter (key · ≤ key x) ++ x :: xs.filter (key x < key ·)

variable {key : α → κ} {x : α} {xs ys : List α}

theorem filter_lt_eq_filter_not (key : α → κ) (k : κ) (xs : List α) :
    xs.filter (k < key ·) = xs.filter fun x => !decide (key x ≤ k) :=
  List.filter_congr fun _ _ => by rw [← decide_not, decide_eq_decide, not_le]

open List in
theorem insertBy_perm : insertBy key x xs ~ x :: xs :=
  calc xs.filter (key · ≤ key x) ++ x :: xs.filter (key x < key ·)
    _ ~ x :: (xs.filter (key · ≤ key x) ++ xs.filter (key x < key ·)) := perm_middle
    _ ~ x :: xs := .cons _ <| by rw [filter_lt_eq_filter_not]; exact filter_append_perm _ _

theorem insertBy_map {β : Type} (f : β → α) (y : β) (ys : List β) :
    insertBy key (f y) (ys.map f) = (insertBy (key ∘ f) y ys).map f := by
  simp [insertBy, List.filter_map, Function.comp_def]

theorem insertBy_pairwise (h : xs.Pairwise fun x y => key x ≤ key y) :
    (insertBy key x xs).Pairwise fun x y => key x ≤ key y := by
  refine List.pairwise_append.mpr ⟨h.filter _, List.pairwise_cons.mpr ⟨?_, h.filter _⟩, ?_⟩
  · exact fun y hy => le_of_lt <| by simpa using (List.mem_filter.mp hy).right
  · intro y hy z hz
    have hy : key y ≤ key x := by simpa using (List.mem_filter.mp hy).right
    cases List.mem_cons.mp hz
    case inl hz => exact hz ▸ hy
    case inr hz => exact hy.trans <| le_of_lt <| by simpa using (List.mem_filter.mp hz).right

theorem filter_insertBy (k : κ) :
    (insertBy key x xs).filter (key · = k) = (xs ++ [x]).filter (key · = k) := by
  have hl : (xs.filter (key · ≤ key x)).filter (key · = k) =
      if k ≤ key x then xs.filter (key · = k) else [] := by
    split <;> rw [List.filter_filter]
    case isTrue h  => exact List.filter_congr fun y _ => by grind
    case isFalse h => exact List.filter_eq_nil_iff.mpr fun y _ => by grind
  have hu : (xs.filter (key x < key ·)).filter (key · = k) =
      if k ≤ key x then [] else xs.filter (key · = k) := by
    split <;> rw [List.filter_filter]
    case isTrue h  => exact List.filter_eq_nil_iff.mpr fun y _ => by grind
    case isFalse h => exact List.filter_congr fun y _ => by grind
  simp only [insertBy, List.filter_append, List.filter_cons, List.filter_nil, hl, hu]
  by_cases hk : key x = k
  case pos => simp [hk]
  case neg => by_cases hle : k ≤ key x <;> simp [hk, hle]

theorem sortBy_pairwise : (sortBy key xs).Pairwise fun x y => key x ≤ key y :=
  xs.pairwise_mergeSort (by simpa using fun _ _ _ => le_trans) (by simp [le_total]) |>.imp
    of_decide_eq_true

theorem sortBy_eq_self (h : xs.Pairwise fun x y => key x ≤ key y) : sortBy key xs = xs :=
  List.mergeSort_of_pairwise <| h.imp decide_eq_true

theorem mem_sortBy : x ∈ sortBy key xs ↔ x ∈ xs :=
  List.mem_mergeSort

theorem filter_sortBy (k : κ) : (sortBy key xs).filter (key · = k) = xs.filter (key · = k) := by
  have hp : (xs.filter (key · = k)).Pairwise fun x y => decide (key x ≤ key y) = true := by
    refine List.pairwise_of_forall_mem_list fun x hx y hy => ?_
    simp only [List.mem_filter, decide_eq_true_eq] at hx hy ⊢
    exact le_of_eq <| hx.right.trans hy.right.symm
  have hs : (xs.filter (key · = k)).Sublist (sortBy key xs) :=
    List.sublist_mergeSort (by simpa using fun _ _ _ => le_trans) (by simp [le_total]) hp
      List.filter_sublist
  have hs : (xs.filter (key · = k)).Sublist ((sortBy key xs).filter (key · = k)) := by
    simpa using hs.filter (key · = k)
  exact (hs.eq_of_length ((xs.mergeSort_perm _).filter _).length_eq.symm).symm

theorem eq_of_filter_eq (hx : xs.Pairwise fun x y => key x ≤ key y)
    (hy : ys.Pairwise fun x y => key x ≤ key y)
    (h : ∀ k, xs.filter (key · = k) = ys.filter (key · = k)) : xs = ys := by
  have hm (z) : z ∈ xs ↔ z ∈ ys := by simpa using congrArg (z ∈ ·) <| h (key z)
  induction xs generalizing ys
  case nil =>
    exact .symm <| List.eq_nil_iff_forall_not_mem.mpr fun z hz => by simpa using (hm z).mpr hz
  case cons x xs ih =>
    cases ys
    case nil => simpa using hm x
    case cons y ys =>
      -- Each of the two first elements is in the other list, so that neither key is greater.
      have hxy : key x ≤ key y := by
        cases List.mem_cons.mp <| (hm y).mpr List.mem_cons_self
        case inl h => exact h ▸ le_rfl
        case inr h => exact List.rel_of_pairwise_cons hx h
      have hyx : key y ≤ key x := by
        cases List.mem_cons.mp <| (hm x).mp List.mem_cons_self
        case inl h => exact h ▸ le_rfl
        case inr h => exact List.rel_of_pairwise_cons hy h
      have he : x = y := by
        simpa [le_antisymm hxy hyx] using congrArg List.head? <| h (key y)
      subst he
      have ht (k) : xs.filter (key · = k) = ys.filter (key · = k) := by
        by_cases hk : key x = k <;> simpa [hk] using h k
      exact congrArg _ <| ih hx.of_cons hy.of_cons ht fun z => by
        simpa using congrArg (z ∈ ·) <| ht (key z)

theorem sortBy_filter (p : α → Bool) : sortBy key (xs.filter p) = (sortBy key xs).filter p :=
  eq_of_filter_eq sortBy_pairwise (sortBy_pairwise.filter p) fun k => by
    rw [filter_sortBy, List.filter_comm, ← filter_sortBy, List.filter_comm]

theorem sortBy_concat : sortBy key (xs ++ [x]) = insertBy key x (sortBy key xs) :=
  eq_of_filter_eq sortBy_pairwise (insertBy_pairwise sortBy_pairwise) fun k => by
    simp only [filter_insertBy, filter_sortBy, List.filter_append]

end LintReport
