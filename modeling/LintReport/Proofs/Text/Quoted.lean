import LintReport.Proofs.Text.Hex
import LintReport.Text.Quoted
import Mathlib.Tactic.SplitIfs

namespace LintReport.Text.Quoted

def readHex (width : ℕ) (s : List Char) : Option (Char × List Char) :=
  if width ≤ s.length then
    (ofHex? (s.take width)).bind fun n =>
      if n.isValidChar then some (Char.ofNat n, s.drop width) else none
  else
    none

def unescape : List Char → Option (Char × List Char)
  | []       => none
  | 'n' :: r => some ('\n', r)
  | 'r' :: r => some ('\r', r)
  | 't' :: r => some ('\t', r)
  | 'x' :: r => readHex 2 r
  | 'u' :: r => readHex 4 r
  | 'U' :: r => readHex 8 r
  | c :: r   => if c = '\\' ∨ c = '\'' ∨ c = '"' then some (c, r) else none

variable {c delim : Char} {r r' s t : List Char} {width : ℕ}

theorem length_of_readHex (h : readHex width s = some (c, r)) : r.length ≤ s.length := by
  unfold readHex at h
  split at h
  case isFalse => cases h
  case isTrue  =>
    obtain ⟨n, _, h⟩ := Option.bind_eq_some_iff.mp h
    split at h <;> cases h
    simp

theorem length_of_unescape (h : unescape s = some (c, r)) : r.length < s.length := by
  unfold unescape at h
  split at h
  case h_1             => cases h
  case h_2 | h_3 | h_4 => cases h; simp
  case h_5 | h_6 | h_7 => exact Nat.lt_succ_of_le <| length_of_readHex h
  case h_8             => split at h <;> cases h; simp

def readTail (delim : Char) (s : List Char) : Option (List Char × List Char) :=
  match s with
  | []     => none
  | c :: r =>
    if c = delim then
      some ([], r)
    else if c = '\\' then
      match h : unescape r with
      | none        => none
      | some (c, t) =>
        have := length_of_unescape h
        (readTail delim t).map fun (cs, t) => (c :: cs, t)
    else
      (readTail delim r).map fun (cs, t) => (c :: cs, t)
termination_by s.length

def IsQuote (c : Char) : Prop :=
  c = '\'' ∨ c = '"'

instance : Decidable (IsQuote c) :=
  inferInstanceAs (Decidable (_ ∨ _))

def read : List Char → Option (List Char × List Char)
  | []     => none
  | c :: r => if IsQuote c then readTail c r else none

theorem readHex_hex (h : c.toNat < 16 ^ width) (t : List Char) :
    readHex width (hex width c.toNat ++ t) = some (c, t) := by
  have hl : width ≤ (hex width c.toNat ++ t).length := by simp
  have ht : (hex width c.toNat ++ t).take width = hex width c.toNat :=
    List.take_left' (length_hex ..)
  have hd : (hex width c.toNat ++ t).drop width = t := List.drop_left' (length_hex ..)
  have hv : c.toNat.isValidChar := c.valid
  rw [readHex, if_pos hl, ht, hd, ofHex?_hex h, Option.bind_some, if_pos hv, Char.ofNat_toNat]

theorem unescape_codePoint (c : Char) :
    ∃ s, codePoint c = '\\' :: s ∧ ∀ t, unescape (s ++ t) = some (c, t) := by
  unfold codePoint
  split_ifs with hx hu
  · exact ⟨_, rfl, readHex_hex (Nat.lt_succ_of_le hx)⟩
  · exact ⟨_, rfl, readHex_hex (Nat.lt_succ_of_le hu)⟩
  · have hv : c.toNat.isValidChar := c.valid
    have hc : c.toNat < 16 ^ 8 := by simp only [Nat.isValidChar] at hv; omega
    exact ⟨_, rfl, readHex_hex hc⟩

theorem escape_forms (hd : IsQuote delim) (c : Char) :
    (∃ s, escape delim c = '\\' :: s ∧ ∀ t, unescape (s ++ t) = some (c, t)) ∨
    (c ≠ '\\' ∧ c ≠ delim ∧ escape delim c = [c]) := by
  unfold escape
  split_ifs with hb hn hr ht hq hp
  · exact .inl ⟨['\\'], rfl, fun t => by rw [hb]; rfl⟩
  · exact .inl ⟨['n'], rfl, fun t => by rw [hn]; rfl⟩
  · exact .inl ⟨['r'], rfl, fun t => by rw [hr]; rfl⟩
  · exact .inl ⟨['t'], rfl, fun t => by rw [ht]; rfl⟩
  · refine .inl ⟨[c], rfl, fun t => ?_⟩
    obtain rfl | rfl := hd <;> rw [hq] <;> rfl
  · exact .inr ⟨hb, hq, rfl⟩
  · exact .inl <| unescape_codePoint c

theorem isQuote_delimiter (s : List Char) : IsQuote (delimiter s) := by
  unfold delimiter
  split
  case isTrue  => exact .inr rfl
  case isFalse => exact .inl rfl

theorem IsQuote.ne_backslash (hd : IsQuote delim) : delim ≠ '\\' := by
  obtain rfl | rfl := hd <;> decide

theorem readTail_escape (hd : IsQuote delim) (c : Char) (t : List Char) :
    readTail delim (escape delim c ++ t) =
    (readTail delim t).map fun (cs, r) => (c :: cs, r) := by
  obtain ⟨s, he, hs⟩ | ⟨hb, hq, he⟩ := escape_forms hd c
  · rw [he, List.cons_append, readTail, if_neg hd.ne_backslash.symm, if_pos rfl]
    split
    case h_1 hn => cases (hs t).symm.trans hn
    case h_2 hs' => cases (hs t).symm.trans hs'; rfl
  · rw [he, List.singleton_append, readTail.eq_def]
    simp [hb, hq]

theorem readTail_flatMap_escape (hd : IsQuote delim) (s t : List Char) :
    readTail delim (s.flatMap (escape delim) ++ delim :: t) = some (s, t) := by
  induction s
  case nil         => rw [List.flatMap_nil, List.nil_append, readTail, if_pos rfl]
  case cons c s ih => rw [List.flatMap_cons, List.append_assoc, readTail_escape hd, ih]; rfl

theorem read_encode (s t : List Char) : read (encode s ++ t) = some (s, t) := by
  have hd := isQuote_delimiter s
  rw [encode, List.append_assoc, List.cons_append, read, if_pos hd, List.singleton_append,
    readTail_flatMap_escape hd]

theorem length_of_readTail (h : readTail delim s = some (t, r)) : r.length < s.length := by
  fun_induction readTail delim s generalizing t
  case case1 => cases h
  case case2 => cases h; simp
  case case3 => cases h
  case case4 ih | case5 ih =>
    obtain ⟨⟨cs, _⟩, ht, he⟩ := Option.map_eq_some_iff.mp h
    cases he
    have := ih ht
    simp only [List.length_cons]
    omega

theorem length_of_read (h : read s = some (t, r)) : r.length < s.length := by
  unfold read at h
  split at h
  case h_1 => cases h
  case h_2 =>
    split at h
    case isTrue  => exact Nat.lt_succ_of_lt <| length_of_readTail h
    case isFalse => cases h

def readItems (s : List Char) : Option (List (List Char) × List Char) :=
  match h : read s with
  | some (n, ']' :: r)        => some ([n], r)
  | some (n, ',' :: ' ' :: r) =>
    have := length_of_read h
    (readItems r).map fun (ns, r) => (n :: ns, r)
  | _                         => none
termination_by s.length
decreasing_by simp at this; omega

def readList : List Char → Option (List (List Char) × List Char)
  | '[' :: ']' :: r => some ([], r)
  | '[' :: r        => readItems r
  | _               => none

theorem readItems_last {n : List Char} (h : read s = some (n, ']' :: r)) :
    readItems s = some ([n], r) := by
  rw [readItems]
  split
  case h_1 he => cases h.symm.trans he; rfl
  case h_2 he => cases h.symm.trans he
  case h_3 hn _ => exact absurd h (hn n r)

theorem readItems_cons {n : List Char} {ns : List (List Char)}
    (h : read s = some (n, ',' :: ' ' :: t)) (ht : readItems t = some (ns, r)) : readItems s = some (n :: ns, r) := by
  rw [readItems]
  split
  case h_1 he => cases h.symm.trans he
  case h_2 he => cases h.symm.trans he; rw [ht]; rfl
  case h_3 hn => exact absurd h (by simpa using hn n t)

theorem readItems_encode (n : List Char) (ns : List (List Char)) (t : List Char) :
    readItems ([',', ' '].intercalate ((n :: ns).map encode) ++ ']' :: t) = some (n :: ns, t) := by
  induction ns generalizing n
  case nil          => simpa [List.intercalate] using readItems_last (read_encode n (']' :: t))
  case cons m ns ih =>
    refine readItems_cons (t := [',', ' '].intercalate ((m :: ns).map encode) ++ ']' :: t) ?_ (ih m)
    simp [List.intercalate, read_encode]

theorem readList_encodeList (ns : List (List Char)) (t : List Char) :
    readList (encodeList ns ++ t) = some (ns, t) := by
  cases ns
  case nil       => rfl
  case cons n ns =>
    have h := readItems_encode n ns t
    rw [encodeList, List.append_assoc, List.cons_append, List.singleton_append, readList, h]
    -- The first item begins with a quote, so that the list is not taken for an empty one.
    intro r hr
    rw [hr, readItems] at h
    split at h
    case h_1 he | h_2 he => cases he
    case h_3             => cases h

theorem encode_append_inj (h : encode s ++ r = encode t ++ r') : s = t ∧ r = r' := by
  have h := congrArg read h
  rw [read_encode, read_encode] at h
  cases h
  exact ⟨rfl, rfl⟩

theorem encodeList_append_inj {ms ns : List (List Char)}
    (h : encodeList ms ++ r = encodeList ns ++ r') : ms = ns ∧ r = r' := by
  have h := congrArg readList h
  rw [readList_encodeList, readList_encodeList] at h
  cases h
  exact ⟨rfl, rfl⟩

theorem isQuote_of_cons_eq (h : c :: r = encode s ++ r') : IsQuote c :=
  (List.cons.inj h).left ▸ isQuote_delimiter s

end LintReport.Text.Quoted
