import LintReport.Proofs.Json.Reader
import LintReport.Proofs.Json.Spelling
import LintReport.Proofs.Json.Unread

namespace LintReport.Json

mutual

def nesting : Json → ℕ
  | array items    => nestingItems items + 1
  | object members => nestingMembers members + 1
  | _              => 0

def nestingItems : List Json → ℕ
  | []      => 0
  | j :: js => max j.nesting (nestingItems js)

def nestingMembers : List (String × Json) → ℕ
  | []           => 0
  | (_, j) :: ms => max j.nesting (nestingMembers ms)

end

mutual

def IsNarrow : Json → Prop
  | int i          => -2 ^ 63 ≤ i ∧ i < 2 ^ 64
  | array items    => AreNarrow items
  | object members => HaveNarrow members
  | _              => True

def AreNarrow : List Json → Prop
  | []      => True
  | j :: js => j.IsNarrow ∧ AreNarrow js

def HaveNarrow : List (String × Json) → Prop
  | []           => True
  | (_, j) :: ms => j.IsNarrow ∧ HaveNarrow ms

end

theorem areNarrow_iff {js : List Json} : AreNarrow js ↔ ∀ j ∈ js, j.IsNarrow := by
  induction js <;> simp [AreNarrow, *]

theorem haveNarrow_iff {ms : List (String × Json)} : HaveNarrow ms ↔ ∀ m ∈ ms, m.2.IsNarrow := by
  induction ms <;> simp [HaveNarrow, *]

theorem nestingItems_le_iff {js : List Json} {n : ℕ} :
    nestingItems js ≤ n ↔ ∀ j ∈ js, j.nesting ≤ n := by
  induction js <;> simp [nestingItems, *]

theorem nestingMembers_le_iff {ms : List (String × Json)} {n : ℕ} :
    nestingMembers ms ≤ n ↔ ∀ m ∈ ms, m.2.nesting ≤ n := by
  induction ms <;> simp [nestingMembers, *]

-- A value that can be settled if as many containers may stand within one another.
def Settles (n : ℕ) (j : Json) : Prop :=
  j.IsNarrow ∧ j.nesting ≤ n

namespace Settles

variable {n m : ℕ} {j : Json}

theorem mono (h : j.Settles n) (hm : n ≤ m) : j.Settles m :=
  ⟨h.left, h.right.trans hm⟩

@[simp]
theorem null : Settles n .null :=
  ⟨trivial, n.zero_le⟩

@[simp]
theorem string (s : String) : Settles n (.string s) :=
  ⟨trivial, n.zero_le⟩

theorem array_iff {js : List Json} : (array js).Settles (n + 1) ↔ ∀ j ∈ js, j.Settles n := by
  have hd : (array js).nesting ≤ n + 1 ↔ nestingItems js ≤ n := Nat.succ_le_succ_iff
  rw [Settles, hd, IsNarrow, areNarrow_iff, nestingItems_le_iff, ← forall₂_and]
  rfl

theorem object_iff {ms : List (String × Json)} :
    (object ms).Settles (n + 1) ↔ ∀ m ∈ ms, m.2.Settles n := by
  have hd : (object ms).nesting ≤ n + 1 ↔ nestingMembers ms ≤ n := Nat.succ_le_succ_iff
  rw [Settles, hd, IsNarrow, haveNarrow_iff, nestingMembers_le_iff, ← forall₂_and]
  rfl

end Settles

namespace Source

theorem skip_toSource (j : Json) : j.toSource.skip = .ok () :=
  (spells_pretty 0 j).skip_eq

theorem enter_eq {depth : ℕ} (h : depth < maxDepth) : enter depth = .ok (depth + 1) :=
  if_pos h

mutual

theorem settle_toSource {depth : ℕ} :
    (j : Json) → j.IsNarrow → depth + j.nesting ≤ maxDepth → j.toSource.settle depth = .ok ()
  | .null,      _, _  => rfl
  | .bool _,    _, _  => rfl
  | .string _,  _, _  => rfl
  | .int i,     h, _  => by
    rw [toSource_int, settle, Numeral.value_ofInt h.left h.right, map_ok]
  | .array js,  h, hd => by
    simp only [nesting] at hd
    have hs := settleItems_toSource js h (by omega : depth + 1 + _ ≤ _)
    simp only [toSource, settle, enter_eq (by omega : depth < maxDepth), ok_bind, hs]
    rfl
  | .object ms, h, hd => by
    simp only [nesting] at hd
    have hs := settleMembers_toSource ms h (by omega : depth + 1 + _ ≤ _)
    simp only [toSource, settle, enter_eq (by omega : depth < maxDepth), ok_bind, hs]
    rfl

theorem settleItems_toSource {depth : ℕ} :
    (js : List Json) → AreNarrow js → depth + nestingItems js ≤ maxDepth →
    settleItems depth (itemsToSource js) = .ok ()
  | [],      _, _  => rfl
  | j :: js, h, hd => by
    simp only [nestingItems] at hd
    rw [itemsToSource, settleItems, settle_toSource j h.left (by omega), ok_bind,
      settleItems_toSource js h.right (by omega)]

theorem settleMembers_toSource {depth : ℕ} :
    (ms : List (String × Json)) → HaveNarrow ms → depth + nestingMembers ms ≤ maxDepth →
    settleMembers depth (membersToSource ms) = .ok ()
  | [],           _, _  => rfl
  | (_, j) :: ms, h, hd => by
    simp only [nestingMembers] at hd
    rw [membersToSource, settleMembers, ok_bind, settle_toSource j h.left (by omega), ok_bind,
      settleMembers_toSource ms h.right (by omega)]

end

end Source

theorem Settles.settle_eq {depth n : ℕ} {j : Json} (h : j.Settles n)
    (hd : depth + n ≤ Source.maxDepth) : j.toSource.settle depth = .ok () :=
  Source.settle_toSource j h.left <| (Nat.add_le_add_left h.right depth).trans hd

namespace Record

variable {σ α : Type} {fields : List (RecordField σ)} {p : Place}
  {k : String} {j : Json} {ms : List (String × Json)} {s : σ} {r : Record σ α} {blank : σ} {x : α}
  {n : ℕ}

theorem readMembers_skip (hk : ∀ f ∈ fields, f.name ≠ k) :
    readMembers fields p (membersToSource ((k, j) :: ms)) s =
    readMembers fields p (membersToSource ms) s := by
  refine @readMembers_append _ _ _ _ [(.ok k.toList, j.toSource)] _ ?other ?skip
  case other => simpa [IsOther] using hk
  case skip  => rw [Source.skipMembers_cons_iff]; exact ⟨Source.skip_toSource j, rfl⟩

theorem readMembers_fill {β : Type} {reader : Reader β} {get : σ → Option β}
    {put : Option β → σ → σ} {o : Bool} {y : β}
    (hk : fields.find? (·.name = k) = some (.of k reader get put o))
    (hs : get s = none) (hr : reader.Reads n j y) (hp : p.Allows n) :
    readMembers fields p (membersToSource ((k, j) :: ms)) s =
    readMembers fields p (membersToSource ms) (put (some y) s) := by
  simp [membersToSource, readMembers, orFault, hk, RecordField.of, hs, hr p hp]

theorem read_object (hp : p.Allows (n + 1))
    (hm : readMembers r.fields p.inner (membersToSource ms) blank = .ok s)
    (hb : r.build s = .ok x) :
    r.read blank p (object ms).toSource = .ok x := by
  simp only [toSource, read, hp.enter, ok_bind, hm, build', hb]
  rfl

end Record

end LintReport.Json
