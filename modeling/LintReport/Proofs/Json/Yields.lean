import LintReport.Json.Record
import LintReport.Proofs.Except
import Mathlib.Data.Nat.Notation

namespace LintReport.Json

variable {α β σ : Type}

namespace Reader

def Yields (r : Reader α) (Q : α → Prop) : Prop :=
  ∀ ⦃p v x⦄, r p v = .ok x → Q x

theorem mismatch_map (e : Expected) (p : Place) (v : Source) (f : α → β) :
    (mismatch e p v : Except Error α).map f = mismatch e p v := by
  rw [mismatch, mismatch, map_bind_eq]
  rfl

theorem mismatch_ne_ok (e : Expected) (p : Place) (v : Source) (x : α) : mismatch e p v ≠ .ok x := by
  intro h
  have ⟨_, _, h⟩ := bind_eq_ok_iff.mp h
  cases h

theorem list_eq_ok_iff {r : Reader α} {p : Place} {v : Source} {xs : List α} :
    Reader.list r p v = .ok xs ↔
    ∃ items p', v = .list items .closed ∧ p.enter = .ok p' ∧
      List.Forall₂ (fun v x => r p' v = .ok x) items xs := by
  constructor
  case mp =>
    intro h
    cases v
    case list items ending =>
      have ⟨p', hp, h⟩ := bind_eq_ok_iff.mp h
      have ⟨ys, hy, h⟩ := bind_eq_ok_iff.mp h
      have ⟨_, he, h⟩ := bind_eq_ok_iff.mp h
      cases h
      cases ending <;> cases he
      exact ⟨items, p', rfl, hp, mapM_eq_ok_iff.mp hy⟩
    all_goals exact absurd h <| mismatch_ne_ok _ p _ _
  case mpr =>
    rintro ⟨items, p', rfl, hp, hs⟩
    simp only [Reader.list, hp, mapM_eq_ok_iff.mpr hs, ok_bind]
    rfl

namespace Yields

variable {r : Reader α} {Q : α → Prop}

theorem natural (e : Expected) (limit : ℕ) : (Reader.natural e limit).Yields (· < limit) := by
  intro p v x h
  cases v
  case numeral n =>
    have ⟨k, _, h⟩ := bind_eq_ok_iff.mp h
    cases k
    case float     => exact absurd h <| mismatch_ne_ok _ p _ _
    case integer i =>
      simp only at h
      split at h
      case isFalse => cases h
      case isTrue hi =>
        cases h
        omega
  all_goals exact absurd h <| mismatch_ne_ok _ p _ _

theorem word64 : Reader.word64.Yields (· < Nat.pow 2 64) :=
  .natural _ _

theorem list (h : r.Yields Q) : (Reader.list r).Yields fun xs => ∀ x ∈ xs, Q x := by
  intro p v xs hr
  obtain ⟨items, p', rfl, _, hs⟩ := list_eq_ok_iff.mp hr
  clear hr
  induction hs
  case nil          => exact List.forall_mem_nil _
  case cons hx _ ih => exact List.forall_mem_cons.mpr ⟨h hx, ih⟩

end Yields

end Reader

theorem decode_eq_ok_iff {r : Reader α} {text : String} {x : α} :
    decode r text = .ok x ↔
    r {} (Source.ofText text.toList).1 = .ok x ∧ dropSpace (Source.ofText text.toList).2 = [] := by
  simp only [decode, bind_eq_ok_iff, ← List.isEmpty_iff]
  constructor
  case mp =>
    rintro ⟨y, hy, h⟩
    split at h
    case isTrue hs => cases h; exact ⟨hy, hs⟩
    case isFalse   => cases h
  case mpr =>
    rintro ⟨hr, hs⟩
    exact ⟨x, hr, by rw [if_pos hs]; rfl⟩

namespace Reader

theorem Yields.decode {r : Reader α} {Q : α → Prop} (h : r.Yields Q) {text : String} {x : α}
    (hd : Json.decode r text = .ok x) : Q x :=
  h (decode_eq_ok_iff.mp hd).left

end Reader

-- The text is a list of these elements, and nothing else stands in it.
def Lists (text : String) (items : List Source) : Prop :=
  (Source.ofText text.toList).1 = .list items .closed ∧ dropSpace (Source.ofText text.toList).2 = []

theorem decode_list_eq_ok_iff {r : Reader α} {text : String} {xs : List α} :
    decode (.list r) text = .ok xs ↔
    ∃ items, Lists text items ∧ List.Forall₂ (fun v x => r { depth := 1 } v = .ok x) items xs := by
  rw [decode_eq_ok_iff, Reader.list_eq_ok_iff]
  constructor
  case mp =>
    rintro ⟨⟨items, p, hv, hp, hs⟩, he⟩
    cases hp
    exact ⟨items, ⟨hv, he⟩, hs⟩
  case mpr =>
    rintro ⟨items, ⟨hv, he⟩, hs⟩
    exact ⟨⟨items, _, hv, rfl, hs⟩, he⟩

namespace RecordField

def Keeps (f : RecordField σ) (P : σ → Prop) : Prop :=
  ∀ ⦃p v s s'⦄, f.fill p v s = .ok s' → P s → P s'

theorem Keeps.of {name : String} {r : Reader α} {get : σ → Option α} {put : Option α → σ → σ}
    {o : Bool} {Q : α → Prop} {P : σ → Prop} (h : r.Yields Q) (hp : ∀ x s, Q x → P s → P (put (some x) s)) :
    (RecordField.of name r get put o).Keeps P := by
  intro p v s s' hf hs
  simp only [RecordField.of] at hf
  cases hr : r p v
  case error => rw [hr] at hf; cases hf
  case ok x  => rw [hr] at hf; cases hf; exact hp x s (h hr) hs

theorem required_eq_ok_iff {name : String} {x : Option α} {y : α} :
    required name x = .ok y ↔ x = some y := by
  cases x <;> simp [required]

end RecordField

namespace Record

variable {fields : List (RecordField σ)} {P : σ → Prop} {p : Place} {s s' : σ}

theorem readMembers_keeps (hf : ∀ f ∈ fields, f.Keeps P) {ms : List (Chars × Source)}
    (h : readMembers fields p ms s = .ok s') (hs : P s) : P s' := by
  induction ms generalizing s
  case nil => cases h; exact hs
  case cons m ms ih =>
    have ⟨key, _, h⟩ := bind_eq_ok_iff.mp h
    split at h
    case h_1 =>
      have ⟨_, _, h⟩ := bind_eq_ok_iff.mp h
      exact ih h hs
    case h_2 f hm =>
      split at h
      case isTrue  => cases h
      case isFalse =>
        have ⟨t, ht, h⟩ := bind_eq_ok_iff.mp h
        exact ih h <| hf f (List.mem_of_find?_eq_some hm) ht hs

theorem readItems_keeps (hf : ∀ f ∈ fields, f.Keeps P) {e : Expected} {size index : ℕ}
    {items : List Source} {ending : Ending}
    (h : readItems e size p index fields items ending s = .ok s') (hs : P s) : P s' := by
  induction fields generalizing s index items
  case nil =>
    have ⟨_, _, h⟩ := bind_eq_ok_iff.mp h
    cases h
    exact hs
  case cons f fs ih =>
    have ⟨hk, hks⟩ := List.forall_mem_cons.mp hf
    cases items
    case cons v items =>
      have ⟨t, ht, h⟩ := bind_eq_ok_iff.mp h
      exact ih hks h (hk ht hs)
    case nil =>
      have ⟨_, _, h⟩ := bind_eq_ok_iff.mp h
      split at h
      case isTrue  => exact ih hks h hs
      case isFalse => cases h

variable {r : Record σ α} {blank : σ} {Q : α → Prop}

theorem yields (hb : P blank) (hf : ∀ f ∈ r.fields, f.Keeps P)
    (hq : ∀ s x, P s → r.build s = .ok x → Q x) : (r.read blank).Yields Q := by
  intro p v x h
  cases v
  case object ms ending =>
    have ⟨p, _, h⟩ := bind_eq_ok_iff.mp h
    have ⟨s, hs, h⟩ := bind_eq_ok_iff.mp h
    have ⟨_, _, h⟩ := bind_eq_ok_iff.mp h
    exact hq s x (readMembers_keeps hf hs hb) (mapError_eq_ok_iff.mp h)
  case list items ending =>
    have ⟨p, _, h⟩ := bind_eq_ok_iff.mp h
    have ⟨s, hs, h⟩ := bind_eq_ok_iff.mp h
    exact hq s x (readItems_keeps hf hs hb) (mapError_eq_ok_iff.mp h)
  all_goals exact absurd h <| Reader.mismatch_ne_ok _ p _ _

theorem read_map {r' : Record σ β} {f : α → β} (he : r'.expected = r.expected)
    (hf : r'.fields = r.fields) (hb : ∀ s, r'.build s = (r.build s).map f) (p : Place) (v : Source) :
    r'.read blank p v = (r.read blank p v).map f := by
  have hb' (s : σ) : r'.build' s = (r.build' s).map f := by
    rw [build', build', hb]
    cases r.build s <;> rfl
  cases v
  case object | list => simp only [read, he, hf, hb', map_bind_eq]
  all_goals simp only [read, he, Reader.mismatch_map]

end Record

end LintReport.Json
