import LintReport.Json.Record
import LintReport.Proofs.Except
import Mathlib.Data.List.Forall2

namespace LintReport.Json

namespace Source

variable {v : Source} {vs : List Source} {m : Chars × Source} {ms : List (Chars × Source)}

theorem skipItems_cons_iff : skipItems (v :: vs) = .ok () ↔ v.skip = .ok () ∧ skipItems vs = .ok () := by
  rw [skipItems, seq_eq_ok_iff]

theorem skipMembers_cons_iff :
    skipMembers (m :: ms) = .ok () ↔ m.2.skip = .ok () ∧ skipMembers ms = .ok () := by
  rw [skipMembers, seq_eq_ok_iff]

theorem skipMembers_append_iff {ms' : List (Chars × Source)} :
    skipMembers (ms ++ ms') = .ok () ↔ skipMembers ms = .ok () ∧ skipMembers ms' = .ok () := by
  induction ms
  case nil          => simp [skipMembers]
  case cons m ms ih => simp only [List.cons_append, skipMembers_cons_iff, ih, and_assoc]

theorem skip_list_iff : (list vs .closed).skip = .ok () ↔ skipItems vs = .ok () := by
  rw [skip, seq_eq_ok_iff]
  exact and_iff_left rfl

theorem skip_object_iff : (object ms .closed).skip = .ok () ↔ skipMembers ms = .ok () := by
  rw [skip, seq_eq_ok_iff]
  exact and_iff_left rfl

end Source

def IsOther (names : List String) (m : Chars × Source) : Prop :=
  ∃ k, m.1 = .ok k ∧ String.ofList k ∉ names

namespace Record

variable {σ : Type} {fields : List (RecordField σ)} {p : Place} {s : σ}
  {ms ms' : List (Chars × Source)}

theorem readMembers_append (h : ∀ m ∈ ms, IsOther (fields.map (·.name)) m)
    (hs : Source.skipMembers ms = .ok ()) :
    readMembers fields p (ms ++ ms') s = readMembers fields p ms' s := by
  induction ms
  case nil => rfl
  case cons m ms ih =>
    have ⟨hm, hms⟩ := Source.skipMembers_cons_iff.mp hs
    have ⟨⟨k, hk, hn⟩, hos⟩ := List.forall_mem_cons.mp h
    have hu : fields.find? (·.name = String.ofList k) = none := by simpa using hn
    have ⟨key, v⟩ := m
    subst hk
    simp [readMembers, orFault, hu, hm, ih hos hms]

theorem readMembers_congr_tail {m : Chars × Source}
    (h : ∀ s, readMembers fields p ms s = readMembers fields p ms' s) :
    readMembers fields p (m :: ms) s = readMembers fields p (m :: ms') s := by
  simp only [readMembers, h]

end Record

theorem Reader.list_congr {α : Type} {r : Reader α} {vs vs' : List Source}
    (h : List.Forall₂ (fun v v' => ∀ p, r p v = r p v') vs vs') (p : Place) (e : Ending) :
    Reader.list r p (.list vs e) = Reader.list r p (.list vs' e) := by
  have hm (p : Place) : vs.mapM (r p) = vs'.mapM (r p) := by
    induction h
    case nil           => rfl
    case cons hv _ ih  => rw [List.mapM_cons, List.mapM_cons, hv, ih]
  simp only [Reader.list, hm]

end LintReport.Json
