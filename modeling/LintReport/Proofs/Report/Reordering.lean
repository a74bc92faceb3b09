import LintReport.Proofs.Report.Recount
import Mathlib.Data.List.Sort

namespace LintReport

open List

section Sorting

variable {α κ : Type} [LinearOrder κ] {key : α → κ} {xs ys : List α}

theorem sortBy_perm (h : xs ~ ys) : sortBy key xs ~ sortBy key ys :=
  (mergeSort_perm xs _).trans <| h.trans (mergeSort_perm ys _).symm

theorem map_key_sortBy_eq (h : xs ~ ys) : (sortBy key xs).map key = (sortBy key ys).map key :=
  Perm.eq_of_pairwise' (pairwise_map.mpr sortBy_pairwise) (pairwise_map.mpr sortBy_pairwise)
    ((sortBy_perm h).map key)

theorem sortBy_eq_of_injOn (h : xs ~ ys) (hk : ∀ x ∈ xs, ∀ y ∈ xs, key x = key y → x = y) :
    sortBy key xs = sortBy key ys := by
  refine Perm.eq_of_pairwise (fun x y hx hy hxy hyx => ?_) sortBy_pairwise sortBy_pairwise
    (sortBy_perm h)
  exact hk x (mem_sortBy.mp hx) y (h.mem_iff.mpr <| mem_sortBy.mp hy) (le_antisymm hxy hyx)

end Sorting

def Diagnostic.sortKey (d : Diagnostic) : String × Location × Code :=
  (d.filename, d.location, d.code)

theorem Diagnostic.sortKey_eq_iff {d₁ d₂ : Diagnostic} :
    d₁.sortKey = d₂.sortKey ↔ d₁.key = d₂.key := by
  simp only [sortKey, Prod.mk.injEq, key_eq_iff]

namespace Report

variable {t t' : String} {ignore : List Code} {ds ds' : List Diagnostic}

theorem kept_perm (h : ds ~ ds') : kept ignore ds ~ kept ignore ds' :=
  (perm_ext_iff_of_nodup kept_nodup kept_nodup).mpr fun d => by rw [mem_kept, mem_kept, h.mem_iff]

theorem entries_perm (h : ds ~ ds') :
    (ofDiagnostics t ignore ds).entries ~ (ofDiagnostics t' ignore ds').entries := by
  rw [entries_ofDiagnostics, entries_ofDiagnostics]
  exact (sortBy_perm <| kept_perm h).map _

theorem summary_eq_of_perm (h : ds ~ ds') :
    (ofDiagnostics t ignore ds).summary = (ofDiagnostics t' ignore ds').summary := by
  rw [(Sound.ofDiagnostics t ignore ds).recounted, (Sound.ofDiagnostics t' ignore ds').recounted,
    h.countP_eq, Summary.recount_perm (entries_perm h)]

theorem sortKeys_eq_of_perm (h : ds ~ ds') :
    (ofDiagnostics t ignore ds).diagnostics.map (·.sortKey) =
    (ofDiagnostics t' ignore ds').diagnostics.map (·.sortKey) := by
  rw [diagnostics_ofDiagnostics, diagnostics_ofDiagnostics]
  have hk : (sortBy (·.key) (kept ignore ds)).map (·.key) =
      (sortBy (·.key) (kept ignore ds')).map (·.key) := map_key_sortBy_eq (kept_perm h)
  rw [← forall₂_eq_eq_eq, forall₂_map_left_iff, forall₂_map_right_iff] at hk ⊢
  exact hk.imp fun _ _ => Diagnostic.sortKey_eq_iff.mpr

theorem entries_eq_of_injOn (h : ds ~ ds')
    (hk : ∀ d₁ ∈ kept ignore ds, ∀ d₂ ∈ kept ignore ds, d₁.sortKey = d₂.sortKey → d₁ = d₂) :
    (ofDiagnostics t ignore ds).entries = (ofDiagnostics t' ignore ds').entries := by
  simp only [Diagnostic.sortKey_eq_iff] at hk
  rw [entries_ofDiagnostics, entries_ofDiagnostics, sortBy_eq_of_injOn (kept_perm h) hk]

-- The order in which diagnostics arrive changes neither the counts nor a verdict, and moves entries only
-- among those with the same file, location and code.
theorem ofDiagnostics_reordered (h : ds ~ ds') (timestamp timestamp' : String) (config : Config) :
    let r := ofDiagnostics timestamp config.ignore ds
    let r' := ofDiagnostics timestamp' config.ignore ds'
    r.summary = r'.summary ∧
    (∀ p, r.fails p = r'.fails p) ∧
    r.diagnostics.map (·.sortKey) = r'.diagnostics.map (·.sortKey) ∧
    r.entries ~ r'.entries ∧
    (∀ k, r.entries.filter (·.diagnostic.sortKey = k) ~ r'.entries.filter (·.diagnostic.sortKey = k)) ∧
    ((∀ d₁ ∈ r.diagnostics, ∀ d₂ ∈ r.diagnostics, d₁.sortKey = d₂.sortKey → d₁ = d₂) →
      r.entries = r'.entries ∧ r.lines = r'.lines) := by
  intro r r'
  have hs : r.summary = r'.summary := summary_eq_of_perm h
  have he : r.entries ~ r'.entries := entries_perm h
  refine ⟨hs, fun p => ?_, sortKeys_eq_of_perm h, he, fun k => he.filter _, fun hk => ?_⟩
  · cases p <;> simp only [fails, hasErrors, hasSevere, hs]
  · have hr : r.diagnostics = sortBy (·.key) (kept config.ignore ds) := diagnostics_ofDiagnostics
    simp only [hr, mem_sortBy] at hk
    have hd : r.entries = r'.entries := entries_eq_of_injOn h hk
    exact ⟨hd, by rw [lines, hd, lines]⟩

theorem ofDiagnostics_reordered_swapped :
    let x : Diagnostic := .make (.undefinedName "x") "a.py" ⟨1, some 0⟩
    let y : Diagnostic := .make (.unusedImport "y") "a.py" ⟨2, some 0⟩
    let r := ofDiagnostics "" { : Config }.ignore [y, x]
    let r' := ofDiagnostics "" { : Config }.ignore [x, y]
    [y, x] ~ [x, y] ∧
    (∀ d₁ ∈ r.diagnostics, ∀ d₂ ∈ r.diagnostics, d₁.sortKey = d₂.sortKey → d₁ = d₂) ∧
    r.summary = r'.summary ∧ (∀ p, r.fails p = r'.fails p) ∧ r.lines = r'.lines := by
  intro x y r r'
  have h : [y, x] ~ [x, y] := .swap x y []
  have hm (d : Diagnostic) (hd : d ∈ r.diagnostics) : d = y ∨ d = x := by
    rw [diagnostics_ofDiagnostics, mem_sortBy, mem_kept] at hd
    simpa using hd.left
  have hk : ∀ d₁ ∈ r.diagnostics, ∀ d₂ ∈ r.diagnostics, d₁.sortKey = d₂.sortKey → d₁ = d₂ := by
    intro d₁ h₁ d₂ h₂ hs
    have hl : d₁.location.line = d₂.location.line := congrArg (·.2.1.line) hs
    obtain rfl | rfl := hm d₁ h₁ <;> obtain rfl | rfl := hm d₂ h₂ <;> first | rfl | cases hl
  have ⟨hs, hf, _, _, _, he⟩ := ofDiagnostics_reordered h "" "" {}
  exact ⟨h, hk, hs, hf, (he hk).right⟩

end Report

end LintReport
