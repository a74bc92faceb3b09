import LintReport.Proofs.Except
import LintReport.Proofs.Toml.Grammar

namespace LintReport.Toml

variable {b c e g k l r s t : List Char} {x : Char} {v : Toml} {vs : List Toml} {n m : ℕ}

-- A text that begins with something that no gap holds, or not at all.
def Solid (s : List Char) : Prop :=
  ∀ x ∈ s.head?, isBlank x = false ∧ x ≠ '#' ∧ x ≠ '\n' ∧ x ≠ '\r'

theorem dropBlanks_append (hb : Blanks b) (s : List Char) : dropBlanks (b ++ s) = dropBlanks s :=
  List.dropWhile_append_of_pos hb

theorem dropBlanks_cons (hx : isBlank x = false) (s : List Char) : dropBlanks (x :: s) = x :: s :=
  List.dropWhile_cons_of_neg (by simp [hx])

theorem Blanks.dropBlanks_append_cons (hb : Blanks b) (hx : isBlank x = false) (s : List Char) :
    dropBlanks (b ++ x :: s) = x :: s :=
  (dropBlanks_append hb _).trans <| dropBlanks_cons hx s

theorem LineEnd.exists_cons (h : LineEnd e) (r : List Char) :
    ∃ x t, e ++ r = x :: t ∧ isBlank x = false ∧ isText x = false ∧ x ≠ '#' := by
  cases h
  case newline  => exact ⟨'\n', r, rfl, rfl, rfl, by decide⟩
  case carriage => exact ⟨'\r', '\n' :: r, rfl, rfl, rfl, by decide⟩

theorem LineEnd.newline?_append (h : LineEnd e) (r : List Char) : newline? (e ++ r) = some r := by
  cases h <;> rfl

theorem Comment.dropComment_append (hc : Comment c)
    (hr : ∀ x ∈ r.head?, isBlank x = false ∧ isText x = false ∧ x ≠ '#') :
    dropComment (dropBlanks (c ++ r)) = r := by
  cases hc
  case absent =>
    cases r
    case nil => rfl
    case cons x r =>
      have ⟨hb, _, hx⟩ := hr x rfl
      rw [List.nil_append, dropBlanks_cons hb, dropComment]
      exact fun _ he => hx (List.cons.inj he).left
  case hash s h =>
    rw [List.cons_append, dropBlanks_cons rfl, dropComment, List.dropWhile_append_of_pos h]
    cases r
    case nil       => rfl
    case cons x r  => exact List.dropWhile_cons_of_neg (by simp [hr x rfl])

theorem Comment.dropComment_eq (hb : Blanks b) (hc : Comment c) :
    dropComment (dropBlanks (b ++ c)) = [] := by
  have h := hc.dropComment_append (r := []) nofun
  rwa [List.append_nil, ← dropBlanks_append hb] at h

namespace RestOfLine

theorem exists_lineEnd (h : RestOfLine l) (r : List Char) :
    ∃ e, LineEnd e ∧ dropComment (dropBlanks (l ++ r)) = e ++ r := by
  cases h
  case intro b c e hb hc he =>
    refine ⟨e, he, ?_⟩
    have ⟨x, t, hx, hs⟩ := he.exists_cons r
    rw [List.append_assoc, List.append_assoc, dropBlanks_append hb, hx]
    exact hc.dropComment_append fun y hy => Option.some.inj hy ▸ hs

theorem newline?_append (h : RestOfLine l) (r : List Char) :
    newline? (dropComment (dropBlanks (l ++ r))) = some r := by
  have ⟨e, he, hl⟩ := h.exists_lineEnd r
  rw [hl, he.newline?_append]

theorem endLine?_append (h : RestOfLine l) (r : List Char) : endLine? (l ++ r) = some r := by
  have ⟨e, he, hl⟩ := h.exists_lineEnd r
  have ⟨x, t, hx, _⟩ := he.exists_cons r
  have hn := he.newline?_append r
  simp only [endLine?, hl]
  rw [hx] at hn ⊢
  exact hn

end RestOfLine

theorem endLine?_eq (hb : Blanks b) (hc : Comment c) : endLine? (b ++ c) = some [] := by
  simp only [endLine?, hc.dropComment_eq hb]

section Gaps

theorem dropLines_of_some (h : newline? (dropComment (dropBlanks s)) = some r) :
    dropLines s = dropLines r := by
  rw [dropLines]
  split
  case h_1 h' => cases h.symm.trans h'; rfl
  case h_2 h' => cases h.symm.trans h'

theorem dropLines_of_none (h : newline? (dropComment (dropBlanks s)) = none) :
    dropLines s = dropComment (dropBlanks s) := by
  rw [dropLines]
  split
  case h_1 h' => cases h.symm.trans h'
  case h_2    => rfl

theorem dropLines_blanks (hb : Blanks b) (s : List Char) : dropLines (b ++ s) = dropLines s := by
  have hd := dropBlanks_append hb s
  cases h : newline? (dropComment (dropBlanks s))
  case none   => rw [dropLines_of_none h, dropLines_of_none (hd ▸ h), hd]
  case some r => rw [dropLines_of_some h, dropLines_of_some (hd ▸ h)]

theorem Gap.dropLines_append (hg : Gap g) (s : List Char) : dropLines (g ++ s) = dropLines s := by
  induction hg
  case blanks hb     => exact dropLines_blanks hb s
  case line hl _ ih  => rw [List.append_assoc, dropLines_of_some (hl.newline?_append _), ih]

theorem Comment.dropLines_eq (hc : Comment c) : dropLines c = [] := by
  have h : dropComment (dropBlanks c) = [] := hc.dropComment_eq (b := []) nofun
  rw [dropLines_of_none (h ▸ rfl), h]

theorem Solid.dropBlanks_eq (h : Solid s) : dropBlanks s = s := by
  cases s
  case nil      => rfl
  case cons x s => exact dropBlanks_cons (h x rfl).left s

theorem Solid.dropLines_eq (h : Solid s) : dropLines s = s := by
  cases s
  case nil => exact Comment.absent.dropLines_eq
  case cons x s =>
    have ⟨hb, hc, hn, hr⟩ := h x rfl
    have hd : dropComment (dropBlanks (x :: s)) = x :: s := by
      rw [dropBlanks_cons hb, dropComment]
      exact fun _ he => hc (List.cons.inj he).left
    have he : newline? (dropComment (dropBlanks (x :: s))) = none := by
      rw [hd, newline?]
      case x_2 => exact fun _ he => hn (List.cons.inj he).left
      case x_3 => exact fun _ he => hr (List.cons.inj he).left
    rw [dropLines_of_none he, hd]

theorem Gap.dropLines_append_solid (hg : Gap g) (hs : Solid s) : dropLines (g ++ s) = s :=
  (hg.dropLines_append s).trans hs.dropLines_eq

end Gaps

section Values

theorem SpellsScalar.exists_cons (h : SpellsScalar v s) :
    ∃ x t, s = x :: t ∧ (x = '"' ∨ x = 't' ∨ x = 'f') := by
  cases h
  case string => exact ⟨_, _, rfl, .inl rfl⟩
  case true   => exact ⟨_, _, rfl, .inr <| .inl rfl⟩
  case false  => exact ⟨_, _, rfl, .inr <| .inr rfl⟩

theorem SpellsScalar.solid (h : SpellsScalar v s) (r : List Char) : Solid (s ++ r) := by
  have ⟨x, t, hs, hx⟩ := h.exists_cons
  intro y hy
  obtain rfl : x = y := by simpa [hs] using hy
  obtain rfl | rfl | rfl := hx <;> decide

theorem SpellsValue.solid (h : SpellsValue v s) (r : List Char) : Solid (s ++ r) := by
  cases h
  case scalar h => exact h.solid r
  case list     => intro y hy; obtain rfl := Option.some.inj hy; decide

theorem basic_append (h : ∀ c ∈ s, IsPlain c) (r : List Char) :
    Literal.basic (s ++ '"' :: r) = some (s, r) := by
  induction s
  case nil => rw [List.nil_append, Literal.basic, if_pos rfl]
  case cons c s ih =>
    obtain ⟨⟨ht, hq, hb⟩, hs⟩ := List.forall_mem_cons.mp h
    rw [List.cons_append, Literal.basic, if_neg hq, if_neg hb, if_pos ht, ih hs]
    rfl

theorem SpellsScalar.scanScalar_append (h : SpellsScalar v s) (r : List Char) :
    scanScalar (s ++ r) = some (v, r) := by
  cases h
  case true | false => rfl
  case string s hn h =>
    have ⟨c, t, ht⟩ := List.exists_cons_of_ne_nil hn
    have hc : c ≠ '"' := (h c (ht ▸ List.mem_cons_self)).right.left
    have hl : Literal.scan ('"' :: (s ++ '"' :: r)) = some (String.ofList s, r) := by
      have hb := basic_append h r
      rw [ht, List.cons_append] at hb ⊢
      rw [Literal.scan, hb]
      case x_1 => exact fun _ he => hc (List.cons.inj he).left
      rfl
    simp only [List.cons_append, List.append_assoc, List.nil_append, scanScalar, scanScalar.text, hl]
    rfl

theorem SpellsScalar.scanValue_append (h : SpellsScalar v s) (r : List Char) :
    scanValue (n + 1) m (s ++ r) = .ok (v, r) := by
  have hv := h.scanScalar_append r
  have ⟨x, t, hs, hx⟩ := h.exists_cons
  rw [hs, List.cons_append] at hv ⊢
  rw [scanValue, hv]
  case x_4 => rintro _ _ _ ⟨⟩; obtain hx | hx | hx := hx <;> cases hx
  case x_5 => rintro _ _ _ ⟨⟩; obtain hx | hx | hx := hx <;> cases hx
  rfl

theorem scanItems_cons (hs : SpellsScalar v s) (r : List Char) :
    scanItems (n + 2) m (s ++ r) = (do
      match dropLines r with
      | ']' :: r => return ([v], r)
      | ',' :: r => do
        let (vs, r) ← scanItems (n + 1) m (dropLines r)
        return (v :: vs, r)
      | _        => throw .malformed) := by
  have ⟨x, t, ht, hx⟩ := hs.exists_cons
  have hv := hs.scanValue_append (n := n) (m := m) r
  rw [ht, List.cons_append] at hv ⊢
  rw [scanItems, hv]
  case x_3 => rintro _ ⟨⟩; obtain hx | hx | hx := hx <;> cases hx
  rfl

-- Each element takes one step of the scan, and its own scan another one.
theorem SpellsItems.scanItems_append (h : SpellsItems vs s) (hn : s.length < n) (r : List Char) :
    scanItems (n + 1) m (dropLines (s ++ ']' :: r)) = .ok (vs, r) := by
  have hr : Solid (']' :: r) := fun _ hy => Option.some.inj hy ▸ by decide
  induction h generalizing n
  case nil hg => rw [hg.dropLines_append_solid hr, scanItems]
  case last g s g' hg hs hg' =>
    obtain ⟨n, rfl⟩ := Nat.exists_eq_succ_of_ne_zero (by omega : n ≠ 0)
    rw [List.append_assoc, List.append_assoc, hg.dropLines_append_solid (hs.solid _),
      scanItems_cons hs, hg'.dropLines_append_solid hr]
    rfl
  case cons g s g' t hg hs hg' _ ih =>
    simp only [List.length_append, List.length_cons] at hn
    obtain ⟨n, rfl⟩ := Nat.exists_eq_succ_of_ne_zero (by omega : n ≠ 0)
    have hc : Solid (',' :: (t ++ ']' :: r)) := fun _ hy => Option.some.inj hy ▸ by decide
    have ht := ih (by omega : t.length < n)
    rw [List.append_assoc, List.append_assoc, List.append_assoc, List.cons_append,
      hg.dropLines_append_solid (hs.solid _), scanItems_cons hs, hg'.dropLines_append_solid hc]
    simp only [ht, ok_bind]
    rfl

theorem SpellsValue.scanValue_append (h : SpellsValue v s) (hn : s.length < n) (r : List Char) :
    scanValue (n + 1) maxLevels (s ++ r) = .ok (v, r) := by
  cases h
  case scalar h => exact h.scanValue_append r
  case list vs s h =>
    simp only [List.length_append, List.length_cons] at hn
    obtain ⟨n, rfl⟩ := Nat.exists_eq_succ_of_ne_zero (by omega : n ≠ 0)
    have hi := h.scanItems_append (m := 78) (by omega : s.length < n) r
    rw [List.append_assoc, List.cons_append, List.singleton_append, maxLevels, scanValue, hi, ok_bind]
    rfl

end Values

section Statements

variable {key : String} {e : String × Toml} {es : Entries}

theorem IsBareKey.exists_cons (hk : IsBareKey key) :
    ∃ x t, key.toList = x :: t ∧ isBare x = true := by
  have ⟨x, t, h⟩ := List.exists_cons_of_ne_nil hk.left
  exact ⟨x, t, h, hk.right x (h ▸ List.mem_cons_self)⟩

theorem not_isBare_of_isBlank (h : isBlank x = true) : isBare x = false := by
  simp only [isBlank, Bool.or_eq_true, beq_iff_eq] at h
  obtain rfl | rfl := h <;> decide

theorem ne_of_isBare {y : Char} (h : isBare x = true) (hy : isBare y = false) : x ≠ y := by
  rintro rfl
  cases h.symm.trans hy

theorem IsBareKey.part_append (hk : IsBareKey key) (hr : ∀ x ∈ r.head?, isBare x = false) :
    Key.part (key.toList ++ r) = .ok (key, r) := by
  have ⟨x, t, ht, hx⟩ := hk.exists_cons
  have hw : (key.toList ++ r).takeWhile isBare = key.toList := by
    rw [List.takeWhile_append_of_pos hk.right]
    cases r
    case nil      => simp
    case cons y r => simp [hr y rfl]
  have hd : (key.toList ++ r).dropWhile isBare = r := by
    rw [List.dropWhile_append_of_pos hk.right]
    cases r
    case nil      => rfl
    case cons y r => simp [hr y rfl]
  rw [Key.part]
  case x_1 => rintro _ he; rw [ht] at he; exact ne_of_isBare hx rfl (List.cons.inj he).left
  case x_2 => rintro _ he; rw [ht] at he; exact ne_of_isBare hx rfl (List.cons.inj he).left
  simp only [hw, hd]
  split
  case h_1 h => exact absurd h hk.left
  case h_2   => rw [String.ofList_toList]

theorem IsBareKey.solid (hk : IsBareKey key) (r : List Char) : Solid (key.toList ++ r) := by
  have ⟨x, t, ht, hx⟩ := hk.exists_cons
  intro y hy
  obtain rfl : x = y := by simpa [ht] using hy
  refine ⟨?blank, ne_of_isBare hx rfl, ne_of_isBare hx rfl, ne_of_isBare hx rfl⟩
  case blank => exact Bool.eq_false_iff.mpr fun hb => by cases hx.symm.trans (not_isBare_of_isBlank hb)

theorem IsBareKey.path_append (hk : IsBareKey key) (hb : Blanks b) (r : List Char) :
    Key.path (key.toList ++ (b ++ '=' :: r)) = .ok ([key], '=' :: r) := by
  have hd := (hk.solid (b ++ '=' :: r)).dropBlanks_eq
  have hp : Key.part (key.toList ++ (b ++ '=' :: r)) = .ok (key, b ++ '=' :: r) := by
    refine hk.part_append fun x hx => ?_
    cases b
    case nil      => exact Option.some.inj hx ▸ rfl
    case cons y b => exact Option.some.inj hx ▸ not_isBare_of_isBlank (hb y List.mem_cons_self)
  have he : dropBlanks (b ++ '=' :: r) = '=' :: r := hb.dropBlanks_append_cons rfl r
  simp only [Key.path, Key.parts, hd, hp, ok_bind, he]
  rfl

theorem SpellsEntry.exists_cons (h : SpellsEntry e s) : ∃ x t, s = x :: t ∧ isBare x = true := by
  cases h
  case intro hk _ _ _ =>
    have ⟨x, t, ht, hx⟩ := hk.exists_cons
    exact ⟨x, _, by rw [ht]; rfl, hx⟩

theorem SpellsEntry.solid (h : SpellsEntry e s) (r : List Char) : Solid (s ++ r) := by
  cases h
  case intro hk _ _ _ =>
    simp only [List.append_assoc]
    exact hk.solid _

theorem SpellsEntry.scan_append (h : SpellsEntry e s) (hn : s.length ≤ n) (r : List Char) :
    Statement.scan (n + 1) (s ++ r) = .ok (.define [e.1] e.2, r) := by
  have ⟨x, t, ht, hx⟩ := h.exists_cons
  cases h
  case intro key v b b' s hk hb hb' hv =>
    simp only [List.length_append, List.length_cons] at hn
    have hs : dropBlanks (b' ++ (s ++ r)) = s ++ r := by
      rw [dropBlanks_append hb', (hv.solid r).dropBlanks_eq]
    have ha : Key.assigned (key.toList ++ b ++ '=' :: b' ++ s ++ r) = .ok ([key], s ++ r) := by
      have hp := hk.path_append hb (b' ++ (s ++ r))
      simp only [List.append_assoc, List.cons_append, Key.assigned, hp, ok_bind, hs]
      rfl
    have hv := hv.scanValue_append (by omega : s.length < n) r
    rw [Statement.scan, ha]
    case x_1 => rintro _ he; rw [ht] at he; exact ne_of_isBare hx rfl (List.cons.inj he).left
    case x_2 => rintro _ he; rw [ht] at he; exact ne_of_isBare hx rfl (List.cons.inj he).left
    simp only [Except.toOption, orMalformed, Option.map_some, Option.getD_some, ok_bind, hv]
    rfl

theorem statements_cons (hg : Gap g) (h : SpellsEntry e s) {r r' : List Char}
    (hr : endLine? r = some r') :
    statements (n + 1) (g ++ (s ++ r)) =
    (.define [e.1] e.2 :: (statements n r').1, (statements n r').2) := by
  have ⟨x, t, ht, _⟩ := h.exists_cons
  have hs := h.scan_append (n := 2 * ((t ++ r).length + 1) + 1) (by simp [ht]; omega) r
  have hd := hg.dropLines_append_solid (h.solid r)
  rw [ht, List.cons_append] at hs hd ⊢
  simp only [statements, hd, hs, hr]

theorem SpellsEntries.statements_eq (h : SpellsEntries es s) (hn : s.length ≤ n) :
    statements (n + 1) s = (es.map fun e => .define [e.1] e.2, none) := by
  induction h generalizing n
  case nil hg hc =>
    have hd := (hg.dropLines_append _).trans hc.dropLines_eq
    simp only [statements, hd]
    rfl
  case last e g s b c hg h hb hc =>
    have ⟨x, t, ht, _⟩ := h.exists_cons
    simp only [ht, List.length_append, List.length_cons] at hn
    obtain ⟨n, rfl⟩ := Nat.exists_eq_succ_of_ne_zero (by omega : n ≠ 0)
    have hl : dropLines [] = [] := Comment.absent.dropLines_eq
    rw [List.append_assoc, List.append_assoc, statements_cons hg h (endLine?_eq hb hc), statements]
    simp only [hl]
    rfl
  case cons e es g s l t hg h hl _ ih =>
    have ⟨x, u, hu, _⟩ := h.exists_cons
    simp only [hu, List.length_append, List.length_cons] at hn
    obtain ⟨n, rfl⟩ := Nat.exists_eq_succ_of_ne_zero (by omega : n ≠ 0)
    rw [List.append_assoc, List.append_assoc, statements_cons hg h (hl.endLine?_append t),
      ih (by omega : t.length ≤ n)]
    rfl

end Statements

section Documents

variable {es es' : Entries}

theorem alter_new {k : String} (h : k ∉ es.map (·.1)) {f : Option Toml → Except Invalid Toml}
    (hf : f none = .ok v) : es.alter k f = .ok (es ++ [(k, v)]) := by
  induction es
  case nil => rw [Entries.alter, hf]; rfl
  case cons e es ih =>
    have ⟨k', v'⟩ := e
    simp only [List.map_cons, List.mem_cons, not_or] at h
    rw [Entries.alter, if_neg (Ne.symm h.left), ih h.right]
    rfl

theorem follow_define {k : String} (h : k ∉ es.map (·.1)) :
    Draft.follow { entries := es } (.define [k] v) = .ok { entries := es ++ [(k, v)] } := by
  have hp : put v (some []) [k] es = .ok (es ++ [(k, v)]) := by
    simp only [put, List.dropLast_singleton, under, define, List.length_singleton, true_or, if_true]
    exact alter_new h rfl
  simp only [Draft.follow, under, hp, ok_bind]
  rfl

theorem foldlM_follow (hn : ((es' ++ es).map (·.1)).Nodup) :
    (es.map fun e => Statement.define [e.1] e.2).foldlM Draft.follow { entries := es' } =
    .ok { entries := es' ++ es } := by
  induction es generalizing es'
  case nil => rw [List.append_nil]; rfl
  case cons e es ih =>
    have hk : e.1 ∉ es'.map (·.1) := by
      simp only [List.map_append, List.nodup_append, List.map_cons] at hn
      exact fun hm => hn.right.right _ hm _ List.mem_cons_self rfl
    rw [List.append_cons] at hn ⊢
    rw [List.map_cons, List.foldlM_cons, follow_define hk, ok_bind, ih hn]

theorem statements_mark (r : List Char) : statements (n + 1) ('\ufeff' :: r) = ([], some .malformed) := by
  have hs : Solid ('\ufeff' :: r) := fun _ hx => Option.some.inj hx ▸ by decide
  have hd : Statement.scan (2 * (r.length + 1) + 2) ('\ufeff' :: r) = .error .malformed := by
    simp only [Statement.scan, Key.assigned, Key.path, Key.parts]
    rfl
  simp only [statements, hs.dropLines_eq, hd]

theorem SpellsEntries.dropMark_eq (h : SpellsEntries es s) : dropMark s = s := by
  rw [dropMark]
  rintro r rfl
  have hs := (statements_mark r).symm.trans (h.statements_eq (Nat.le_refl _))
  cases congrArg Prod.snd hs

theorem SpellsEntries.ofText_eq {text : String} (h : SpellsEntries es text.toList)
    (hn : (es.map (·.1)).Nodup) : ofText text = .ok es := by
  have hs := h.statements_eq (Nat.le_refl _)
  have hf : (es.map fun e => Statement.define [e.1] e.2).foldlM Draft.follow {} =
      .ok { entries := es } := foldlM_follow hn
  simp only [ofText, h.dropMark_eq, hs, hf, ok_bind]
  rfl

end Documents

end LintReport.Toml
