import LintReport.Proofs.Json.Record
import Mathlib.Data.List.Pairwise

namespace LintReport.Json

theorem membersToSource_eq_map (ms : List (String × Json)) :
    membersToSource ms = ms.map fun m => (.ok m.1.toList, m.2.toSource) := by
  induction ms <;> simp [membersToSource, *]

def maxNesting : ℕ :=
  100

def missing {α : Type} (name : String) : Option α → List String
  | none   => [name]
  | some _ => []

def asNull (names : List String) : List (String × Json) :=
  names.map fun n => (n, null)

-- The members of an object in any order. The absent ones may be there as null, and others may be added
-- that have none of these names.
inductive Rearranged (names absent : List String) (known : List (String × Json)) :
    List (String × Json) → Prop
  | intro {nulls : List String} {others ms : List (String × Json)} (hn : nulls.Sublist absent)
    (ho : ∀ m ∈ others, m.1 ∉ names ∧ m.2.Settles maxNesting)
    (hp : (known ++ asNull nulls ++ others).Perm ms) : Rearranged names absent known ms

namespace Rearranged

variable {names absent : List String} {known ms : List (String × Json)}

theorem refl (names absent : List String) (known : List (String × Json)) :
    Rearranged names absent known known :=
  .intro absent.nil_sublist (fun _ h => absurd h List.not_mem_nil) (by simp [asNull])

theorem exists_added (h : Rearranged names absent known ms) :
    ∃ added, (known ++ added).Perm ms ∧
    ∀ m ∈ added, (m.1 ∈ absent ∨ m.1 ∉ names) ∧ m.2.Settles maxNesting := by
  cases h
  case intro nulls others hn ho hp =>
    refine ⟨asNull nulls ++ others, List.append_assoc .. ▸ hp, fun m hm => ?_⟩
    simp only [List.mem_append, asNull, List.mem_map] at hm
    obtain ⟨n, hm, rfl⟩ | hm := hm
    · exact ⟨.inl <| hn.subset hm, .null⟩
    · exact (ho m hm).imp_left .inr

end Rearranged

namespace RecordField

variable {σ α β : Type}

structure Independent (f g : RecordField σ) : Prop where
  filled  : ∀ {p v s t}, f.fill p v s = .ok t → g.filled t = g.filled s
  filled' : ∀ {p v s t}, g.fill p v s = .ok t → f.filled t = f.filled s
  fill    : ∀ {p v u s t},
    (f.fill p v s >>= g.fill p u) = .ok t ↔ (g.fill p u s >>= f.fill p v) = .ok t

instance : Std.Symm (@Independent σ) where
  symm _ _ h := ⟨h.filled', h.filled, h.fill.symm⟩

section Of

variable {n n' : String} {r : Reader α} {r' : Reader β} {get : σ → Option α} {get' : σ → Option β}
  {put : Option α → σ → σ} {put' : Option β → σ → σ} {o o' : Bool}

theorem fill_of_eq_ok_iff {p : Place} {v : Source} {s t : σ} :
    (of n r get put o).fill p v s = .ok t ↔ ∃ x, r p v = .ok x ∧ put (some x) s = t :=
  map_eq_ok_iff

theorem filled_of (hg : ∀ x s, get (put x s) = x) {p : Place} {v : Source} {s t : σ}
    (h : (of n r get put o).fill p v s = .ok t) : (of n r get put o).filled t = true := by
  obtain ⟨x, -, rfl⟩ := fill_of_eq_ok_iff.mp h
  simp [of, hg]

theorem Independent.of (hg : ∀ x s, get' (put x s) = get' s) (hg' : ∀ y s, get (put' y s) = get s)
    (hp : ∀ x y s, put' y (put x s) = put x (put' y s)) :
    (of n r get put o).Independent (of n' r' get' put' o') where
  filled h := by
    obtain ⟨x, -, rfl⟩ := fill_of_eq_ok_iff.mp h
    exact congrArg (·.isSome) (hg _ _)
  filled' h := by
    obtain ⟨y, -, rfl⟩ := fill_of_eq_ok_iff.mp h
    exact congrArg (·.isSome) (hg' _ _)
  fill := by
    intro p v u s t
    simp only [bind_eq_ok_iff, fill_of_eq_ok_iff]
    constructor
    case mp =>
      rintro ⟨_, ⟨x, hx, rfl⟩, y, hy, rfl⟩
      exact ⟨_, ⟨y, hy, rfl⟩, x, hx, (hp _ _ _).symm⟩
    case mpr =>
      rintro ⟨_, ⟨y, hy, rfl⟩, x, hx, rfl⟩
      exact ⟨_, ⟨x, hx, rfl⟩, y, hy, hp _ _ _⟩

end Of

end RecordField

namespace Record

variable {σ α : Type} {fields : List (RecordField σ)} {p : Place} {m m' : Chars × Source}
  {ms ms' : List (Chars × Source)} {s t : σ}

-- The fields of a record can be filled in any order, but each of them only once.
structure Orderly (fields : List (RecordField σ)) : Prop where
  filled      : ∀ f ∈ fields, ∀ {p v s t}, f.fill p v s = .ok t → f.filled t = true
  independent : fields.Pairwise RecordField.Independent

theorem Orderly.nil : Orderly ([] : List (RecordField σ)) :=
  ⟨nofun, .nil⟩

theorem Orderly.cons {f : RecordField σ} (h : Orderly fields)
    (hf : ∀ {p v s t}, f.fill p v s = .ok t → f.filled t = true)
    (hi : ∀ g ∈ fields, f.Independent g) : Orderly (f :: fields) :=
  ⟨List.forall_mem_cons.mpr ⟨hf, h.filled⟩, .cons hi h.independent⟩

def takeMember (fields : List (RecordField σ)) (p : Place) (s : σ) (m : Chars × Source) :
    Except Error σ := do
  let key ← orFault m.1
  match fields.find? (·.name = String.ofList key) with
  | none   => do
    orFault m.2.skip
    return s
  | some f =>
    if f.filled s then
      throw <| .mismatch <| .duplicateField f.name
    else
      f.fill p m.2 s

theorem readMembers_eq_foldlM : readMembers fields p ms s = ms.foldlM (takeMember fields p) s := by
  induction ms generalizing s
  case nil => rfl
  case cons m ms ih =>
    simp only [readMembers, List.foldlM_cons, takeMember, bind_assoc, ← ih]
    refine congrArg _ <| funext fun k => ?_
    cases fields.find? (·.name = String.ofList k)
    case none   => simp only [bind_assoc, pure_bind]
    case some f => cases hf : f.filled s <;> simp only [hf] <;> rfl

theorem takeMember_eq_ok_iff :
    takeMember fields p s m = .ok t ↔
    ∃ k, m.1 = .ok k ∧
      ((fields.find? (·.name = String.ofList k) = none ∧ m.2.skip = .ok () ∧ s = t) ∨
      ∃ f, fields.find? (·.name = String.ofList k) = some f ∧ f.filled s = false ∧
        f.fill p m.2 s = .ok t) := by
  rw [takeMember, bind_eq_ok_iff]
  refine exists_congr fun k => and_congr mapError_eq_ok_iff ?_
  cases fields.find? (·.name = String.ofList k)
  case none   =>
    simp only [seq_eq_ok_iff, orFault, mapError_eq_ok_iff]
    simp [pure, Except.pure]
  case some f => cases hf : f.filled s <;> simp [hf]

theorem Orderly.takeMember_swap (h : Orderly fields)
    (ht : (takeMember fields p s m >>= (takeMember fields p · m')) = .ok t) :
    (takeMember fields p s m' >>= (takeMember fields p · m)) = .ok t := by
  simp only [bind_eq_ok_iff, takeMember_eq_ok_iff] at ht ⊢
  obtain ⟨s', ⟨k, hk, hs⟩, k', hk', ht⟩ := ht
  obtain ⟨hn, hv, rfl⟩ | ⟨f, hf, hs, hfs⟩ := hs
  case inl =>
    obtain ⟨hn', hv', rfl⟩ | ⟨g, hg, hs, hgs⟩ := ht
    case inl => exact ⟨s, ⟨k', hk', .inl ⟨hn', hv', rfl⟩⟩, k, hk, .inl ⟨hn, hv, rfl⟩⟩
    case inr => exact ⟨t, ⟨k', hk', .inr ⟨g, hg, hs, hgs⟩⟩, k, hk, .inl ⟨hn, hv, rfl⟩⟩
  case inr =>
    obtain ⟨hn', hv', rfl⟩ | ⟨g, hg, ht, hgt⟩ := ht
    case inl => exact ⟨s, ⟨k', hk', .inl ⟨hn', hv', rfl⟩⟩, k, hk, .inr ⟨f, hf, hs, hfs⟩⟩
    case inr =>
      have hm := List.mem_of_find?_eq_some hf
      have hm' := List.mem_of_find?_eq_some hg
      -- A field that was filled cannot be filled again.
      have hn : f ≠ g := by
        rintro rfl
        cases (h.filled f hm hfs).symm.trans ht
      have hi := h.independent.forall hm hm' hn
      have ⟨s₁, hgs, hft⟩ := bind_eq_ok_iff.mp <| hi.fill.mp <| bind_eq_ok_iff.mpr ⟨s', hfs, hgt⟩
      exact ⟨s₁, ⟨k', hk', .inr ⟨g, hg, hi.filled hfs ▸ ht, hgs⟩⟩, k, hk,
        .inr ⟨f, hf, (hi.filled' hgs).trans hs, hft⟩⟩

theorem Orderly.readMembers_perm (h : Orderly fields) (hp : ms.Perm ms')
    (hr : readMembers fields p ms s = .ok t) : readMembers fields p ms' s = .ok t := by
  rw [readMembers_eq_foldlM] at hr ⊢
  refine foldlM_perm ?swap hp hr
  case swap => exact fun _ _ _ _ => h.takeMember_swap

variable {names absent : List String} {known ms : List (String × Json)} {P : σ → Prop}

theorem Orderly.readMembers_rearranged (h : Orderly fields) (hm : Rearranged names absent known ms)
    (hf : ∀ f ∈ fields, f.name ∈ names)
    (hr : ∀ nulls : List String, nulls.Sublist absent → ∃ t,
      readMembers fields p (membersToSource (known ++ asNull nulls)) s = .ok t ∧ P t) :
    ∃ t, readMembers fields p (membersToSource ms) s = .ok t ∧ P t := by
  cases hm
  case intro nulls others hn ho hp =>
    have ⟨t, ht, hP⟩ := hr nulls hn
    have hu : ∀ m ∈ membersToSource others, IsOther (fields.map (·.name)) m := by
      simp only [membersToSource_eq_map, List.forall_mem_map]
      refine fun m hm => ⟨_, rfl, fun hk => (ho m hm).left ?_⟩
      have ⟨f, hm, he⟩ := List.mem_map.mp hk
      rw [String.ofList_toList] at he
      exact he ▸ hf f hm
    have hs : Source.skipMembers (membersToSource others) = .ok () :=
      Source.skip_object_iff.mp <| Source.skip_toSource (object others)
    refine ⟨t, ?_, hP⟩
    rw [← readMembers_append hu hs] at ht
    refine h.readMembers_perm ?_ ht
    simp only [membersToSource_eq_map, ← List.map_append]
    exact (List.perm_append_comm.trans hp).map _

end Record

end LintReport.Json
