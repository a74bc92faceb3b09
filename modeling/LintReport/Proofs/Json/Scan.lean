import LintReport.Json.Reader
import LintReport.Proofs.Json.Reader
import LintReport.Proofs.Json.Spelling

namespace LintReport.Json

variable {b r s t u u' : List Char} {c : Char} {j : Json} {n : ℕ}

def IsMark (c : Char) : Prop :=
  c = ',' ∨ c = ']' ∨ c = '\x7d'

-- A text that begins with something else than a blank or a mark, as that of a value does.
def Starts (s : List Char) : Prop :=
  ∃ c t, s = c :: t ∧ isSpace c = false ∧ ¬IsMark c

theorem dropSpace_cons (h : isSpace c = false) (s : List Char) : dropSpace (c :: s) = c :: s :=
  List.dropWhile_cons_of_neg (by simp [h])

namespace Blank

theorem dropSpace_append (hb : Blank b) (s : List Char) : dropSpace (b ++ s) = dropSpace s :=
  List.dropWhile_append_of_pos hb

theorem dropSpace_append_cons (hb : Blank b) (h : isSpace c = false) (s : List Char) :
    dropSpace (b ++ c :: s) = c :: s :=
  (hb.dropSpace_append _).trans <| dropSpace_cons h s

theorem stops (hb : Blank b) (hr : Numeral.Stops r) : Numeral.Stops (b ++ r) := by
  cases b
  case nil      => exact hr
  case cons c b =>
    intro x hx
    have hc : isSpace x = true := Option.some.inj hx ▸ hb c List.mem_cons_self
    simp only [isSpace, Bool.or_eq_true, beq_iff_eq] at hc
    obtain ((rfl | rfl) | rfl) | rfl := hc <;> decide

end Blank

namespace IsMark

theorem not_isSpace (h : IsMark c) : isSpace c = false := by
  obtain rfl | rfl | rfl := h <;> rfl

theorem stops (h : IsMark c) (r : List Char) : Numeral.Stops (c :: r) := by
  intro x hx
  obtain rfl := Option.some.inj hx
  obtain rfl | rfl | rfl := h <;> decide

end IsMark

namespace Starts

theorem of_isDigit (hc : c.isDigit = true) (s : List Char) : Starts (c :: s) := by
  refine ⟨c, s, rfl, ?space, ?mark⟩
  case space =>
    simp only [isSpace, Bool.or_eq_false_iff, beq_eq_false_iff_ne]
    refine ⟨⟨⟨?_, ?_⟩, ?_⟩, ?_⟩ <;> rintro rfl <;> cases hc
  case mark => rintro (rfl | rfl | rfl) <;> cases hc

theorem append (h : Starts s) (r : List Char) : Starts (s ++ r) :=
  have ⟨c, t, hs, hc⟩ := h
  ⟨c, t ++ r, hs ▸ rfl, hc⟩

theorem dropSpace_eq (h : Starts s) : dropSpace s = s :=
  have ⟨_, t, hs, hc, _⟩ := h
  hs ▸ dropSpace_cons hc t

theorem length_pos (h : Starts s) : 0 < s.length :=
  have ⟨_, _, hs, _⟩ := h
  hs ▸ Nat.succ_pos _

end Starts

namespace Numeral

theorem SpellsUnsigned.isDigit_head {n : Numeral} (h : SpellsUnsigned n s) :
    ∃ c t, s = c :: t ∧ c.isDigit = true := by
  have .intro hw _ _ := h
  have hw := hw.isDigits
  have ⟨c, t, ht⟩ := List.exists_cons_of_ne_nil hw.left
  exact ⟨c, t ++ _, by rw [ht, List.cons_append], hw.right c (ht ▸ List.mem_cons_self)⟩

theorem Spells.starts {n : Numeral} (h : n.Spells s) : Starts s := by
  cases h
  case unsigned _ h =>
    have ⟨c, t, ht, hc⟩ := h.isDigit_head
    exact ht ▸ .of_isDigit hc t
  case negative => exact ⟨'-', _, rfl, rfl, by simp [IsMark]⟩

end Numeral

namespace Source

variable {v : Source} {vs : List Source} {ms : List (Chars × Source)} {e : Ending}

theorem Spells.starts (h : Spells v s) : Starts s := by
  cases h
  case null                 => exact ⟨'n', _, rfl, rfl, by simp [IsMark]⟩
  case bool b               => cases b <;> exact ⟨_, _, rfl, rfl, by simp [IsMark]⟩
  case numeral h            => exact h.starts
  case string               => exact ⟨'"', _, rfl, rfl, by simp [IsMark]⟩
  case emptyList | list     => exact ⟨'[', _, rfl, rfl, by simp [IsMark]⟩
  case emptyObject | object => exact ⟨'\x7b', _, rfl, rfl, by simp [IsMark]⟩

theorem SpellsElement.starts (h : SpellsElement v s) (r : List Char) :
    Starts (dropSpace (s ++ r)) := by
  cases h
  case intro _ _ t hb _ h =>
    have hs := h.starts.append (t ++ r)
    rwa [List.append_assoc, List.append_assoc, hb.dropSpace_append, hs.dropSpace_eq]

theorem SpellsItems.starts (h : SpellsItems vs s) (r : List Char) :
    Starts (dropSpace (s ++ r)) := by
  cases h
  case last h   => exact h.starts r
  case cons h _ => rw [List.append_assoc]; exact h.starts _

theorem SpellsElement.length_pos (h : SpellsElement v s) : 0 < s.length := by
  cases h
  case intro h =>
    have := h.starts.length_pos
    simp only [List.length_append]
    omega

theorem scan_blank (hb : Blank b) (s : List Char) : scan n (b ++ s) = scan n s := by
  cases n <;> simp only [scan, hb.dropSpace_append]

theorem scan_dropSpace (s : List Char) : scan n (dropSpace s) = scan n s := by
  have hb : Blank (s.takeWhile isSpace) := List.all_eq_true.mp List.all_takeWhile
  calc
    scan n (dropSpace s) = scan n (s.takeWhile isSpace ++ dropSpace s) := (scan_blank hb _).symm
    _                       = scan n s := by rw [dropSpace, List.takeWhile_append_dropWhile]

theorem scan_digit (hc : c.isDigit = true) (s : List Char) :
    scan (n + 1) (c :: s) = scanNumeral false (c :: s) := by
  rw [scan, (Starts.of_isDigit hc s).dropSpace_eq]
  split
  case h_9 he => cases he; rw [if_pos hc]
  all_goals next he => cases he <;> cases hc

theorem scan_numeral {k : Numeral} (h : k.Spells s) (hr : Numeral.Stops r) :
    scan (n + 1) (s ++ r) = (.numeral k, r) := by
  cases h
  case unsigned hk h =>
    have ⟨c, t, ht, hc⟩ := h.isDigit_head
    have hs : Numeral.scan false (c :: (t ++ r)) = .ok (k, r) := by
      simpa only [ht, hk, List.cons_append] using h.scan_append hr
    rw [ht, List.cons_append, scan_digit hc, scanNumeral, hs]
  case negative s h hk =>
    have hs : Numeral.scan true (s ++ r) = .ok (k, r) := hk ▸ h.scan_append hr
    rw [List.cons_append, scan, dropSpace_cons rfl]
    simp only [scanNumeral, hs]

theorem scan_list (hs : Starts (dropSpace s)) (h : scanItems n (dropSpace s) = (vs, e, r)) :
    scan (n + 1) ('[' :: s) = (list vs e, r) := by
  have ⟨c, t, hc, _, hm⟩ := hs
  rw [scan, dropSpace_cons rfl]
  simp only [hc] at h ⊢
  split
  case h_1 he => cases he
  case h_2 he => cases he; exact absurd (.inr <| .inl rfl) hm
  case h_3    => rw [h]

theorem scan_object (hs : dropSpace s = '"' :: t) (h : scanMembers n t = (ms, e, r)) :
    scan (n + 1) ('\x7b' :: s) = (object ms e, r) := by
  rw [scan, dropSpace_cons rfl]
  simp only [hs, h]

theorem scanItems_last (h : scan n s = (v, t)) (ht : dropSpace t = ']' :: r) :
    scanItems (n + 1) s = ([v], .closed, r) := by
  simp only [scanItems, h, ht]

theorem scanItems_cons (h : scan n s = (v, t)) (ht : dropSpace t = ',' :: u)
    (hu : Starts (dropSpace u)) (hs : scanItems n (dropSpace u) = (vs, e, r)) :
    scanItems (n + 1) s = (v :: vs, e, r) := by
  have ⟨c, t, hc, _, hm⟩ := hu
  simp only [scanItems, h, ht, hc] at hs ⊢
  split
  case h_1 he => cases he
  case h_2 he => cases he; exact absurd (.inr <| .inl rfl) hm
  case h_3    => rw [hs]

section Members

variable {k : List Char} (hk : Literal.Body k) (hb : Blank b) (h : scan n s = (v, t))
include hk hb h

theorem scanMembers_last (ht : dropSpace t = '\x7d' :: r) :
    scanMembers (n + 1) (k ++ '"' :: (b ++ ':' :: s)) = ([(Literal.value k, v)], .closed, r) := by
  simp only [scanMembers, hk.scanChars_append,
    hb.dropSpace_append_cons (rfl : isSpace ':' = false), h, ht]

theorem scanMembers_cons (ht : dropSpace t = ',' :: u) (hu : dropSpace u = '"' :: u')
    (hs : scanMembers n u' = (ms, e, r)) :
    scanMembers (n + 1) (k ++ '"' :: (b ++ ':' :: s)) = ((Literal.value k, v) :: ms, e, r) := by
  simp only [scanMembers, hk.scanChars_append,
    hb.dropSpace_append_cons (rfl : isSpace ':' = false), h, ht, hu, hs]

end Members

-- Each scan begins with at least twice as much n as its text is long.
mutual

theorem scan_of_spells {v : Source} {s r : List Char} {n : ℕ} :
    Spells v s → Numeral.Stops r → 2 * s.length ≤ n → scan n (s ++ r) = (v, r)
  | .null, _, hn => by
    obtain ⟨n, rfl⟩ := Nat.exists_eq_succ_of_ne_zero (by simp at hn; omega : n ≠ 0)
    rfl
  | .bool b, _, hn => by
    obtain ⟨n, rfl⟩ := Nat.exists_eq_succ_of_ne_zero
      (by cases b <;> simp [scalar] at hn <;> omega : n ≠ 0)
    cases b <;> rfl
  | .numeral h, hr, hn => by
    have hl := h.starts.length_pos
    obtain ⟨n, rfl⟩ := Nat.exists_eq_succ_of_ne_zero (by omega : n ≠ 0)
    exact scan_numeral h hr
  | .string h, _, hn => by
    simp only [Literal.quoted, List.length_append, List.length_cons] at hn
    obtain ⟨n, rfl⟩ := Nat.exists_eq_succ_of_ne_zero (by omega : n ≠ 0)
    rw [Literal.quoted, List.append_assoc, List.cons_append, scan, dropSpace_cons rfl]
    simp only [scanString, List.singleton_append, h.scanChars_append]
  | .emptyList hb, _, hn => by
    simp only [List.length_append, List.length_cons] at hn
    obtain ⟨n, rfl⟩ := Nat.exists_eq_succ_of_ne_zero (by omega : n ≠ 0)
    simp [scan, dropSpace_cons (rfl : isSpace '[' = false),
      hb.dropSpace_append_cons (rfl : isSpace ']' = false)]
  | .list h, _, hn => by
    simp only [List.length_append, List.length_cons] at hn
    obtain ⟨n, rfl⟩ := Nat.exists_eq_succ_of_ne_zero (by omega : n ≠ 0)
    have hi := scanItems_of_spells (r := r) h (by omega : _ < n)
    simpa using scan_list (h.starts _) hi
  | .emptyObject hb, _, hn => by
    simp only [List.length_append, List.length_cons] at hn
    obtain ⟨n, rfl⟩ := Nat.exists_eq_succ_of_ne_zero (by omega : n ≠ 0)
    simp [scan, dropSpace_cons (rfl : isSpace '\x7b' = false),
      hb.dropSpace_append_cons (rfl : isSpace '\x7d' = false)]
  | .object h, _, hn => by
    simp only [List.length_append, List.length_cons] at hn
    obtain ⟨n, rfl⟩ := Nat.exists_eq_succ_of_ne_zero (by omega : n ≠ 0)
    have ⟨t, ht, hm⟩ := scanMembers_of_spells (r := r) h (by omega : _ < n)
    simpa using scan_object ht hm

theorem scan_of_element {v : Source} {s r : List Char} {c : Char} {n : ℕ} :
    SpellsElement v s → IsMark c → 2 * s.length ≤ n →
    ∃ t, scan n (s ++ c :: r) = (v, t) ∧ dropSpace t = c :: r
  | .intro (t := b) hb h hb', hc, hn => by
    simp only [List.length_append] at hn
    refine ⟨b ++ c :: r, ?_, hb'.dropSpace_append_cons hc.not_isSpace r⟩
    simpa [scan_blank hb] using scan_of_spells h (hb'.stops <| hc.stops r) (by omega : _ ≤ n)

theorem scanItems_of_spells {vs : List Source} {s r : List Char} {n : ℕ} :
    SpellsItems vs s → 2 * s.length < n →
    scanItems n (dropSpace (s ++ ']' :: r)) = (vs, .closed, r)
  | .last h, hn => by
    obtain ⟨n, rfl⟩ := Nat.exists_eq_succ_of_ne_zero (by omega : n ≠ 0)
    have ⟨t, hv, ht⟩ := scan_of_element (r := r) h (.inr <| .inl rfl : IsMark ']')
      (by omega : _ ≤ n)
    rw [← scan_dropSpace] at hv
    exact scanItems_last hv ht
  | .cons (t := u) h hs, hn => by
    simp only [List.length_append, List.length_cons] at hn
    obtain ⟨n, rfl⟩ := Nat.exists_eq_succ_of_ne_zero (by omega : n ≠ 0)
    have ⟨t, hv, ht⟩ := scan_of_element (r := u ++ ']' :: r) h (.inl rfl : IsMark ',')
      (by omega : _ ≤ n)
    rw [← scan_dropSpace] at hv
    have hl := h.length_pos
    have hi := scanItems_of_spells (r := r) hs (by omega : _ < n)
    simpa using scanItems_cons hv ht (hs.starts _) hi

theorem scanMembers_of_spells {ms : List (Chars × Source)} {s r : List Char} {n : ℕ} :
    SpellsMembers ms s → 2 * s.length < n →
    ∃ t, dropSpace (s ++ '\x7d' :: r) = '"' :: t ∧ scanMembers n t = (ms, .closed, r)
  | .last hb hk hb' h, hn => by
    simp only [List.length_append, List.length_cons] at hn
    obtain ⟨n, rfl⟩ := Nat.exists_eq_succ_of_ne_zero (by omega : n ≠ 0)
    have ⟨t, hv, ht⟩ := scan_of_element (r := r) h (.inr <| .inr rfl : IsMark '\x7d')
      (by omega : _ ≤ n)
    refine ⟨_, ?_, scanMembers_last hk hb' hv ht⟩
    simpa [Literal.quoted] using hb.dropSpace_append_cons (rfl : isSpace '"' = false) _
  | .cons (t := u) hb hk hb' h hs, hn => by
    simp only [List.length_append, List.length_cons] at hn
    obtain ⟨n, rfl⟩ := Nat.exists_eq_succ_of_ne_zero (by omega : n ≠ 0)
    have ⟨t, hv, ht⟩ := scan_of_element (r := u ++ '\x7d' :: r) h (.inl rfl : IsMark ',')
      (by omega : _ ≤ n)
    have ⟨u', hu, hm⟩ := scanMembers_of_spells (r := r) hs (by omega : _ < n)
    refine ⟨_, ?_, scanMembers_cons hk hb' hv ht hu hm⟩
    simpa [Literal.quoted] using hb.dropSpace_append_cons (rfl : isSpace '"' = false) _

end

theorem SpellsElement.ofText (h : SpellsElement v s) :
    (ofText s).1 = v ∧ dropSpace (ofText s).2 = [] := by
  cases h
  case intro b s t hb ht h =>
    have hs := scan_of_spells h (by simpa using ht.stops (r := []) nofun : Numeral.Stops t)
      (by simp; omega : _ ≤ 2 * (b ++ s ++ t).length + 2)
    rw [Source.ofText, List.append_assoc, scan_blank hb, ← List.append_assoc, hs]
    have hd := ht.dropSpace_append []
    rw [List.append_nil] at hd
    exact ⟨rfl, hd⟩

theorem SpellsElement.decode_eq {α : Type} {text : String} (h : SpellsElement v text.toList)
    (r : Reader α) : decode r text = r {} v := by
  have ⟨hv, hr⟩ := h.ofText
  simp only [decode, hv, hr, List.isEmpty_nil, if_true]
  exact bind_pure _

end Source

theorem spellsElement_pretty (j : Json) : Source.SpellsElement j.toSource j.pretty.toList := by
  rw [pretty, String.toList_ofList]
  exact (Source.spells_pretty 0 j).element

theorem spellsElement_compact (j : Json) : Source.SpellsElement j.toSource j.compact.toList := by
  rw [compact, String.toList_ofList]
  exact (Source.spells_compact j).element

section Reads

variable {α : Type} {r : Reader α} {x : α} (h : r.Reads n j x) (hn : n ≤ Source.maxDepth)
include h hn

theorem Reader.Reads.decode_spells {text : String} (hs : Source.SpellsElement j.toSource text.toList) :
    decode r text = .ok x :=
  (hs.decode_eq r).trans <| h {} <| by rwa [Place.Allows, Nat.zero_add]

theorem Reader.Reads.decode_pretty : decode r j.pretty = .ok x :=
  h.decode_spells hn (spellsElement_pretty j)

theorem Reader.Reads.decode_compact : decode r j.compact = .ok x :=
  h.decode_spells hn (spellsElement_compact j)

end Reads

end LintReport.Json
