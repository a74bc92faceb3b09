import LintReport.Proofs.Report.Json
import LintReport.Proofs.Report.Reference
import Mathlib.Data.Finset.Card

namespace LintReport

namespace Summary

def recount (ignored : ℕ) (es : List Entry) : Summary where
  total    := es.length
  errors   := es.countP (·.severity = .error)
  warnings := es.countP (·.severity = .warning)
  severe   := es.countP (1 < ·.score)
  files    := (es.map (·.diagnostic.filename)).toFinset.card
  ignored  := ignored

variable {n : ℕ} {d : Diagnostic} {es es' : List Entry}

open List in
theorem recount_perm (h : es ~ es') : recount n es = recount n es' := by
  simp only [recount, h.length_eq, h.countP_eq,
    List.toFinset_eq_of_perm _ _ (h.map (·.diagnostic.filename))]

theorem recount_cons_of :
    recount n (.of d :: es) =
    (recount n es).count d (d.filename ∉ es.map (·.diagnostic.filename)) := by
  simp only [recount, count, mk.injEq, List.length_cons, List.countP_cons, Entry.of, List.map_cons,
    List.toFinset_cons, Finset.card_insert_eq_ite, List.mem_toFinset, Diagnostic.isSevere,
    Severity.isSevereScore, Severity.severeThreshold, decide_eq_true_eq]
  refine ⟨trivial, trivial, trivial, ?severe, ?files, trivial⟩
  case severe => by_cases hs : 1 < d.score <;> simp [hs]
  case files  => split <;> simp_all

theorem recount_errors_add_warnings (n : ℕ) (es : List Entry) :
    (recount n es).errors + (recount n es).warnings = (recount n es).total := by
  have hn (e : Entry) : e.severity = .warning ↔ ¬e.severity = .error := by
    cases e.severity <;> decide
  simp only [recount, hn]
  simpa using (es.length_eq_countP_add_countP (·.severity = .error)).symm

theorem recount_fits (he : es.length < limit) (hn : n < limit) : (recount n es).Fits := by
  have hc (p : Entry → Bool) : es.countP p < limit := List.countP_le_length.trans_lt he
  have hf : (recount n es).files < limit := (List.toFinset_card_le _).trans_lt (by simpa using he)
  exact ⟨he, hc _, hc _, hc _, hf, hn⟩

end Summary

namespace Report

theorem Ordered.filter_isInfix {r : Report} (h : r.Ordered) (f : String) :
    r.entries.filter (·.diagnostic.filename = f) <:+: r.entries := by
  have hl : Parted (·.diagnostic.filename < f) r.entries := h.imp fun hk hf => by
    simp only [decide_eq_true_eq] at hf ⊢
    exact (Diagnostic.filename_le_of_key_le hk).trans_lt hf
  have hu : Parted (·.diagnostic.filename = f)
      (r.entries.filter fun e => !decide (e.diagnostic.filename < f)) := by
    refine List.pairwise_filter.mpr <| h.imp fun hk hx hy hf => ?_
    simp only [Bool.not_eq_true', decide_eq_false_iff_not, decide_eq_true_eq] at hx hf ⊢
    exact le_antisymm (hf ▸ Diagnostic.filename_le_of_key_le hk) (not_lt.mp hx)
  have he : r.entries.filter (·.diagnostic.filename = f) =
      (r.entries.filter fun e => !decide (e.diagnostic.filename < f)).filter
        (·.diagnostic.filename = f) := by
    rw [List.filter_filter]
    exact List.filter_congr fun e _ => by grind
  rw [he]
  exact ⟨_, _, by rw [List.append_assoc, hu.filter_append_filter_not, hl.filter_append_filter_not]⟩

-- What holds of every report that is built by adding diagnostics, when as many as said were ignored.
structure Sound (r : Report) (ignored : ℕ) : Prop where
  ordered   : r.Ordered
  nodup     : r.diagnostics.Nodup
  canonical : r.Canonical
  recounted : r.summary = .recount ignored r.entries

variable {r : Report} {n : ℕ} {d : Diagnostic}

namespace Sound

theorem empty (timestamp : String) : (empty timestamp).Sound 0 where
  ordered   := .empty
  nodup     := .nil
  canonical := fun _ he => absurd he List.not_mem_nil
  recounted := by simp [Report.empty, Summary.recount]

theorem inserted (h : r.Sound n) (hd : d ∉ r.diagnostics) : (r.inserted d).Sound n where
  ordered   := h.ordered.inserted
  nodup     := nodup_inserted h.nodup hd
  canonical := fun e he => by
    cases List.mem_cons.mp <| insertBy_perm.mem_iff.mp he
    case inl he => exact he ▸ rfl
    case inr he => exact h.canonical e he
  recounted := by
    simp only [Report.inserted, Summary.recount_perm insertBy_perm, Summary.recount_cons_of,
      h.recounted]
    rfl

theorem insert (h : r.Sound n) (d : Diagnostic) : (r.insert d).Sound n := by
  rw [Report.insert, h.ordered.insert?_eq]
  split
  case isTrue     => exact h
  case isFalse hd => exact h.inserted hd

theorem ignoreOne (h : r.Sound n) : r.ignoreOne.Sound (n + 1) where
  ordered   := h.ordered
  nodup     := h.nodup
  canonical := h.canonical
  recounted := by simp [Report.ignoreOne, h.recounted, Summary.recount]

theorem ofDiagnostics (timestamp : String) (ignore : List Code) (ds : List Diagnostic) :
    (ofDiagnostics timestamp ignore ds).Sound (ds.countP (·.code ∈ ignore)) := by
  induction ds using List.reverseRecOn
  case nil => exact .empty timestamp
  case append_singleton ds d ih =>
    rw [ofDiagnostics_concat, List.countP_append, List.countP_singleton]
    split
    case isTrue hi  => simpa [hi] using ih.ignoreOne
    case isFalse hi => simpa [hi] using ih.insert d

end Sound

theorem Ordered.add_eq_ok {r' : Report} {b : Bool} (h : r.Ordered) (ha : r.add d = .ok (r', b)) :
    (d ∈ r.diagnostics ∧ r' = r ∧ b = false) ∨
    (d ∉ r.diagnostics ∧ r' = r.inserted d ∧ r'.summary.Fits ∧ b = true) := by
  obtain ⟨hi, hr, hb⟩ | ⟨hi, hf, hb⟩ := Report.add_eq_ok ha
  case inl => exact .inl ⟨mem_of_insert?_eq_none hi, hr, hb⟩
  case inr =>
    rw [h.insert?_eq] at hi
    split at hi
    case isTrue     => cases hi
    case isFalse hd => exact .inr ⟨hd, (Option.some.inj hi).symm, hf, hb⟩

theorem Sound.add {r' : Report} {b : Bool} (h : r.Sound n) (ha : r.add d = .ok (r', b)) :
    r'.Sound n := by
  obtain ⟨_, rfl, _⟩ | ⟨hd, rfl, _⟩ := h.ordered.add_eq_ok ha
  · exact h
  · exact h.inserted hd

end Report

end LintReport
