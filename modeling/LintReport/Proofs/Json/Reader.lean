import LintReport.Json.Record
import LintReport.Proofs.Except
import LintReport.Proofs.Json.Numeral
import Mathlib.Data.UInt

namespace LintReport.Json

theorem toSource_int (i : ℤ) : (Json.int i).toSource = .numeral (.ofInt i) :=
  rfl

theorem itemsToSource_eq_map (js : List Json) : itemsToSource js = js.map toSource := by
  induction js <;> simp [itemsToSource, *]

namespace Place

def inner (p : Place) : Place :=
  { p with depth := p.depth + 1 }

def Allows (p : Place) (n : ℕ) : Prop :=
  p.depth + n ≤ Source.maxDepth

namespace Allows

variable {p : Place} {n m : ℕ}

theorem mono (h : p.Allows n) (hm : m ≤ n) : p.Allows m :=
  Nat.le_trans (Nat.add_le_add_left hm _) h

theorem inner (h : p.Allows (n + 1)) : p.inner.Allows n := by
  simp only [Allows, Place.inner] at h ⊢
  omega

theorem enter (h : p.Allows (n + 1)) : p.enter = .ok p.inner := by
  have hd : p.depth < Source.maxDepth := Nat.lt_of_lt_of_le (Nat.lt_add_of_pos_right n.succ_pos) h
  rw [Place.enter, Source.enter, if_pos hd]
  rfl

end Allows

end Place

namespace Reader

variable {α : Type} {n m : ℕ} {j : Json} {x : α} {r : Reader α}

-- Reads a value wherever as many containers may stand within one another.
def Reads (r : Reader α) (n : ℕ) (j : Json) (x : α) : Prop :=
  ∀ p : Place, p.Allows n → r p j.toSource = .ok x

namespace Reads

theorem string (s : String) : Reader.string.Reads 0 (.string s) s :=
  fun _ _ => by simp [Reader.string, text, toSource, orFault]

theorem natural {e : Expected} {k limit : ℕ} (hk : k < limit) (hl : limit ≤ 2 ^ 64) :
    (Reader.natural e limit).Reads 0 (.int k) k := by
  intro p _
  have hv : (Numeral.ofInt k).value = .ok (.integer k) := Numeral.value_ofInt (by omega) (by omega)
  simp only [toSource_int, Reader.natural, hv, orFault, mapError_ok, ok_bind]
  rw [if_pos (by omega)]
  rfl

theorem word64 {k : ℕ} (h : k < Nat.pow 2 64) : Reader.word64.Reads 0 (.int k) k :=
  natural h <| Nat.le_refl _

theorem word32 (k : UInt32) : Reader.word32.Reads 0 (.int k.toNat) k := by
  intro p hp
  rw [Reader.word32, natural k.toNat_lt (by decide) p hp, map_ok, UInt32.ofNat_toNat]

theorem option (h : r.Reads n j x) (hj : j ≠ .null) : (Reader.option r).Reads n j (some x) := by
  intro p hp
  cases j
  case null => exact absurd rfl hj
  all_goals exact congrArg (Except.map some) (h p hp)

theorem list {w : α → Json} {xs : List α} (h : ∀ x ∈ xs, r.Reads n (w x) x) :
    (Reader.list r).Reads (n + 1) (.array (xs.map w)) xs := by
  intro p hp
  have hm : (xs.map (toSource <| w ·)).mapM (r p.inner) = .ok xs := by
    induction xs
    case nil          => rfl
    case cons x xs ih =>
      have ⟨hx, hs⟩ := List.forall_mem_cons.mp h
      simp only [List.map_cons, List.mapM_cons, hx p.inner hp.inner, ih hs, ok_bind]
      rfl
  simp only [toSource, Reader.list, hp.enter, ok_bind, itemsToSource_eq_map, List.map_map]
  simp only [Function.comp_def, hm, ok_bind]
  rfl

end Reads

end Reader

end LintReport.Json
