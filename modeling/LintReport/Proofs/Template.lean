import LintReport.Message
import LintReport.Proofs.Except
import Mathlib.Data.List.Infix

namespace LintReport

namespace Template

-- At how many places of a text a placeholder stands. Its two characters differ, so that no two of
-- them overlap.
def occurrences (t : List Char) : ℕ :=
  t.tails.countP placeholder.toList.isPrefixOf

def Solid (p : List Char) : Prop :=
  ¬placeholder.toList <:+: p

-- No placeholder begins in the one text and ends in the other.
def Apart (s t : List Char) : Prop :=
  s.getLast? ≠ some '\x7b' ∨ t.head? ≠ some '\x7d'

def expand (t : List Char) (as : List (List Char)) : List Char :=
  fill (pieces t) as

variable {c : Char} {p r s t a : List Char} {as bs : List (List Char)}

theorem toList_placeholder : placeholder.toList = ['\x7b', '\x7d'] :=
  rfl

theorem arity_eq_occurrences (t : List Char) : arity t = occurrences t := by
  fun_induction arity t
  case case1        => rfl
  case case2 r ih   => simp [occurrences, toList_placeholder, List.isPrefixOf, ih]
  case case3 c r hn ih =>
    have hp : ¬placeholder.toList.isPrefixOf (c :: r) = true := by
      intro hp
      obtain ⟨r', hr⟩ := List.isPrefixOf_iff_prefix.mp hp
      cases hr
      exact hn _ rfl rfl
    rw [ih, occurrences, occurrences, List.tails_cons, List.countP_cons_of_neg hp]

theorem arity_eq_zero_iff : arity p = 0 ↔ Solid p := by
  simp only [arity_eq_occurrences, occurrences, List.countP_eq_zero, List.mem_tails,
    List.isPrefixOf_iff_prefix, Solid, List.infix_iff_prefix_suffix, not_exists, not_and']

theorem solid_nil : Solid [] := by
  rw [← arity_eq_zero_iff]
  rfl

theorem pieces_ne_nil (t : List Char) : pieces t ≠ [] := by
  fun_cases pieces t <;> simp_all

theorem expand_placeholder : expand ('\x7b' :: '\x7d' :: r) (a :: as) = a ++ expand r as := by
  simp [expand, pieces, fill]

theorem expand_cons (hn : ∀ r', c = '\x7b' → r = '\x7d' :: r' → False) :
    expand (c :: r) as = c :: expand r as := by
  rw [expand, expand, pieces.eq_3 _ _ hn]
  cases hp : pieces r
  case nil       => exact absurd hp <| pieces_ne_nil r
  case cons p ps => cases as <;> simp [fill]

theorem expand_solid (h : Solid p) : expand p [] = p := by
  rw [← arity_eq_zero_iff] at h
  fun_induction arity p
  case case1           => rfl
  case case2           => cases h
  case case3 c r hn ih => rw [expand_cons hn, ih h]

namespace Apart

theorem tail (h : Apart (c :: r) t) : Apart r t := by
  cases r
  case nil  => exact .inl nofun
  case cons => rwa [Apart, List.getLast?_cons_cons] at h

theorem not_placeholder (h : Apart (c :: r) t)
    (hn : ∀ r', c = '\x7b' → r = '\x7d' :: r' → False) :
    ∀ r', c = '\x7b' → r ++ t = '\x7d' :: r' → False := by
  rintro r' rfl hr
  cases r
  case nil      => simp [Apart, show t = _ from hr] at h
  case cons d r => exact hn r rfl <| by rw [(List.cons.inj hr).left]

theorem arity_append (h : Apart s t) : arity (s ++ t) = arity s + arity t := by
  fun_induction arity s
  case case1           => simp
  case case2 r ih      =>
    rw [List.cons_append, List.cons_append, arity, ih h.tail.tail, Nat.add_right_comm]
  case case3 c r hn ih =>
    rw [List.cons_append, arity.eq_3 _ _ (h.not_placeholder hn), ih h.tail]

theorem expand_append (h : Apart s t) (ha : arity s = as.length) :
    expand (s ++ t) (as ++ bs) = expand s as ++ expand t bs := by
  fun_induction arity s generalizing as
  case case1           =>
    obtain rfl := List.length_eq_zero_iff.mp ha.symm
    rfl
  case case2 r ih      =>
    cases as
    case nil       => cases ha
    case cons a as =>
      calc expand ('\x7b' :: '\x7d' :: (r ++ t)) (a :: (as ++ bs))
        _ = a ++ expand (r ++ t) (as ++ bs)      := expand_placeholder
        _ = a ++ (expand r as ++ expand t bs)    := by rw [ih h.tail.tail (Nat.succ.inj ha)]
        _ = expand ('\x7b' :: '\x7d' :: r) (a :: as) ++ expand t bs := by
          rw [expand_placeholder, List.append_assoc]
  case case3 c r hn ih =>
    rw [List.cons_append, expand_cons (h.not_placeholder hn), ih h.tail ha, expand_cons hn,
      List.cons_append]

end Apart

theorem exists_pieces {α : Type} {xs : List α} (h : arity t = xs.length) :
    ∃ p, ∃ ys : List (α × String), Solid p.toList ∧ (∀ y ∈ ys, Solid y.2.toList) ∧
      xs = ys.map (·.1) ∧ t = (p ++ String.join (ys.map (placeholder ++ ·.2))).toList := by
  fun_induction arity t generalizing xs
  case case1 =>
    obtain rfl := List.length_eq_zero_iff.mp h.symm
    exact ⟨"", [], solid_nil, nofun, rfl, rfl⟩
  case case2 r ih =>
    cases xs
    case nil       => cases h
    case cons x xs =>
      obtain ⟨p, ys, hp, hys, rfl, rfl⟩ := ih (Nat.succ.inj h)
      exact ⟨"", (x, p) :: ys, solid_nil, List.forall_mem_cons.mpr ⟨hp, hys⟩, rfl,
        by simp [toList_placeholder]⟩
  case case3 c r hn ih =>
    obtain ⟨p, ys, hp, hys, rfl, rfl⟩ := ih h
    refine ⟨.ofList (c :: p.toList), ys, ?solid, hys, rfl, by simp⟩
    case solid =>
      have hn : ∀ r', c = '\x7b' → p.toList = '\x7d' :: r' → False :=
        fun r' hc hr => hn _ hc <| by rw [String.toList_append, hr]; rfl
      rw [← arity_eq_zero_iff] at hp ⊢
      rwa [String.toList_ofList, arity.eq_3 _ _ hn]

end Template

variable {t t₁ t₂ s s₁ s₂ : String} {as as₁ as₂ : List Argument}

theorem substitute_eq_ok_iff :
    substitute t as = .ok s ↔
    Template.arity t.toList = as.length ∧
      s.toList = Template.expand t.toList (as.map (·.shown.toList)) := by
  rw [substitute]
  split
  case isTrue h  => simp [h, Template.expand, ← String.toList_inj, eq_comm]
  case isFalse h => simp [h]

theorem substitute_append (h : Template.Apart t₁.toList t₂.toList) (h₁ : substitute t₁ as₁ = .ok s₁)
    (h₂ : substitute t₂ as₂ = .ok s₂) : substitute (t₁ ++ t₂) (as₁ ++ as₂) = .ok (s₁ ++ s₂) := by
  rw [substitute_eq_ok_iff] at h₁ h₂ ⊢
  constructor
  case left  => rw [String.toList_append, h.arity_append, h₁.left, h₂.left, List.length_append]
  case right =>
    have ha : Template.arity t₁.toList = (as₁.map (·.shown.toList)).length := by
      rw [h₁.left, List.length_map]
    rw [String.toList_append, String.toList_append, List.map_append, h.expand_append ha, h₁.right,
      h₂.right]

theorem substitute_solid (h : Template.Solid t.toList) : substitute t [] = .ok t :=
  substitute_eq_ok_iff.mpr ⟨Template.arity_eq_zero_iff.mpr h, (Template.expand_solid h).symm⟩

theorem substitute_placeholder (a : Argument) : substitute Template.placeholder [a] = .ok a.shown :=
  substitute_eq_ok_iff.mpr ⟨rfl, by
    rw [Template.toList_placeholder]
    exact (Template.expand_placeholder.trans (List.append_nil _)).symm⟩

theorem substitute_pieces {p : String} {ys : List (Argument × String)}
    (hp : Template.Solid p.toList) (hys : ∀ y ∈ ys, Template.Solid y.2.toList) :
    substitute (p ++ String.join (ys.map (Template.placeholder ++ ·.2))) (ys.map (·.1)) =
    .ok (p ++ String.join (ys.map fun y => y.1.shown ++ y.2)) := by
  induction ys generalizing p
  case nil          => simpa using substitute_solid hp
  case cons y ys ih =>
    have ⟨hy, hys⟩ := List.forall_mem_cons.mp hys
    -- A placeholder does not end in an opening brace, nor does it begin with a closing one.
    have h := substitute_append (.inl (by decide)) (substitute_placeholder y.1) (ih hy hys)
    have hp' (t : String) : Template.Apart p.toList (Template.placeholder ++ t).toList :=
      .inr (by simp [Template.toList_placeholder])
    simpa [String.append_assoc] using substitute_append (hp' _) (substitute_solid hp) h

-- A template is filled if and only if there is one argument for each placeholder. Then it is made of
-- pieces around the placeholders, and in what it becomes the shown arguments stand between the same
-- pieces, whatever braces they hold. Two templates with no placeholder where they meet are filled
-- together as each by itself.
theorem substitute_fills :
    (∀ t as e, substitute t as = .error e ↔
      Template.occurrences t.toList ≠ as.length ∧
        e = ⟨t, Template.occurrences t.toList, as.length⟩) ∧
    (∀ t as, Template.occurrences t.toList = as.length →
      ∃ p, ∃ ys : List (Argument × String), Template.Solid p.toList ∧
        (∀ y ∈ ys, Template.Solid y.2.toList) ∧ as = ys.map (·.1) ∧
        t = p ++ String.join (ys.map (Template.placeholder ++ ·.2))) ∧
    (∀ p, ∀ ys : List (Argument × String), Template.Solid p.toList →
      (∀ y ∈ ys, Template.Solid y.2.toList) →
      substitute (p ++ String.join (ys.map (Template.placeholder ++ ·.2))) (ys.map (·.1)) =
      .ok (p ++ String.join (ys.map fun y => y.1.shown ++ y.2))) ∧
    ∀ t₁ t₂ as₁ as₂ s₁ s₂, Template.Apart t₁.toList t₂.toList → substitute t₁ as₁ = .ok s₁ →
      substitute t₂ as₂ = .ok s₂ → substitute (t₁ ++ t₂) (as₁ ++ as₂) = .ok (s₁ ++ s₂) := by
  refine ⟨fun t as e => ?error, fun t as h => ?pieces, fun p ys hp hys => substitute_pieces hp hys,
    fun t₁ t₂ as₁ as₂ s₁ s₂ => substitute_append⟩
  case error =>
    rw [substitute, Template.arity_eq_occurrences]
    split
    case isTrue h  => simp [h]
    case isFalse h => simp [h, eq_comm]
  case pieces =>
    rw [← Template.arity_eq_occurrences] at h
    obtain ⟨p, ys, hp, hys, ha, ht⟩ := Template.exists_pieces h
    exact ⟨p, ys, hp, hys, ha, String.toList_inj.mp ht⟩

theorem substitute_fills_braces :
    let as : List Argument := [.text "\x7b\x7d", .name "it's"]
    let t := "\x7b\x7b\x7d\x7d\x7b\x7d\x7b"
    Template.occurrences t.toList = as.length ∧ Template.Solid ['\x7b'] ∧ Template.Solid ['\x7d'] ∧
    Template.Apart t.toList Template.placeholder.toList ∧
    substitute t as = .ok "\x7b\x7b\x7d\x7d\"it's\"\x7b" ∧
    substitute (t ++ Template.placeholder) (as ++ [.line 7]) = .ok "\x7b\x7b\x7d\x7d\"it's\"\x7b7" ∧
    substitute t [] = .error ⟨t, 2, 0⟩ := by
  intro as t
  have ⟨he, _, hp, ha⟩ := substitute_fills
  have hl : Template.Solid ['\x7b'] := Template.arity_eq_zero_iff.mp rfl
  have hr : Template.Solid ['\x7d'] := Template.arity_eq_zero_iff.mp rfl
  have hs : Template.Apart t.toList Template.placeholder.toList := .inr (by decide)
  have ht : substitute t as = .ok "\x7b\x7b\x7d\x7d\"it's\"\x7b" :=
    hp "\x7b" [(.text "\x7b\x7d", "\x7d"), (.name "it's", "\x7b")] hl
      (List.forall_mem_cons.mpr ⟨hr, List.forall_mem_singleton.mpr hl⟩)
  exact ⟨by decide, hl, hr, hs, ht, ha _ _ _ _ _ _ hs ht (substitute_placeholder (.line 7)),
    (he t [] _).mpr (by decide)⟩

end LintReport
