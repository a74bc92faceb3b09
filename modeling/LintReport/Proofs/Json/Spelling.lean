import LintReport.Proofs.Json.Grammar

namespace LintReport.Json.Source

theorem spells_string (s : List Char) : Spells (.string (.ok s)) (Literal.encode s) := by
  have h := Spells.string (Literal.body_flatMap_escape s)
  rwa [Literal.value_flatMap_escape] at h

theorem spells_int (i : ℤ) : Spells (Json.int i).toSource (Json.int i).scalar := by
  have h := Numeral.spellsUnsigned_toDigits (n := i.natAbs) (i < 0)
  rw [scalar]
  split
  case isTrue hi  => exact .numeral <| .negative h <| decide_eq_true hi
  case isFalse hi => exact .numeral <| .unsigned h <| decide_eq_false hi

section Members

variable {v : Source} {ms : List (Chars × Source)} {b b' s t : List Char}

theorem spellsMembers_last (k : List Char) (hb : Blank b) (hb' : Blank b') (h : SpellsElement v s) :
    SpellsMembers [(.ok k, v)] (b ++ Literal.encode k ++ b' ++ ':' :: s) := by
  rw [← Literal.value_flatMap_escape]
  exact .last hb (Literal.body_flatMap_escape k) hb' h

theorem spellsMembers_cons (k : List Char) (hb : Blank b) (hb' : Blank b') (h : SpellsElement v s)
    (hs : SpellsMembers ms t) :
    SpellsMembers ((.ok k, v) :: ms) (b ++ Literal.encode k ++ b' ++ ':' :: s ++ ',' :: t) := by
  rw [← Literal.value_flatMap_escape]
  exact .cons hb (Literal.body_flatMap_escape k) hb' h hs

end Members

mutual

theorem spells_pretty (depth : ℕ) : (j : Json) → Spells j.toSource (j.prettyChars depth)
  | .null      => .null
  | .bool b    => .bool b
  | .int i     => spells_int i
  | .string s  => spells_string s.toList
  | .array []  => .emptyList .nil
  | .array (j :: js) => by
    have h := spellsItems_pretty (depth + 1) (.newline depth) (j :: js) (List.cons_ne_nil j js)
    simpa [prettyChars, toSource] using Spells.list h
  | .object [] => .emptyObject .nil
  | .object (m :: ms) => by
    have h := spellsMembers_pretty (depth + 1) (.newline depth) (m :: ms) (List.cons_ne_nil m ms)
    simpa [prettyChars, toSource] using Spells.object h

theorem spellsItems_pretty (depth : ℕ) {b : List Char} (hb : Blank b) :
    (js : List Json) → js ≠ [] → SpellsItems (itemsToSource js) (prettyItems depth js ++ b)
  | [],            hn => absurd rfl hn
  | [j],           _  => .last <| .intro (.newline depth) (spells_pretty depth j) hb
  | j :: j' :: js, _  => by
    have h := SpellsElement.intro (.newline depth) (spells_pretty depth j) .nil
    have hs := spellsItems_pretty depth hb (j' :: js) (List.cons_ne_nil j' js)
    simpa [prettyItems, itemsToSource] using SpellsItems.cons h hs

theorem spellsMembers_pretty (depth : ℕ) {b : List Char} (hb : Blank b) :
    (ms : List (String × Json)) → ms ≠ [] →
    SpellsMembers (membersToSource ms) (prettyMembers depth ms ++ b)
  | [],                hn => absurd rfl hn
  | [(k, j)],          _  => by
    have h := SpellsElement.intro .space (spells_pretty depth j) hb
    simpa [prettyMembers, membersToSource] using spellsMembers_last k.toList (.newline depth) .nil h
  | (k, j) :: m :: ms, _  => by
    have h := SpellsElement.intro .space (spells_pretty depth j) .nil
    have hs := spellsMembers_pretty depth hb (m :: ms) (List.cons_ne_nil m ms)
    simpa [prettyMembers, membersToSource] using spellsMembers_cons k.toList (.newline depth) .nil h hs

end

mutual

theorem spells_compact : (j : Json) → Spells j.toSource j.compactChars
  | .null             => .null
  | .bool b           => .bool b
  | .int i            => spells_int i
  | .string s         => spells_string s.toList
  | .array []         => .emptyList .nil
  | .array (j :: js)  => .list <| spellsItems_compact (j :: js) (List.cons_ne_nil j js)
  | .object []        => .emptyObject .nil
  | .object (m :: ms) => .object <| spellsMembers_compact (m :: ms) (List.cons_ne_nil m ms)

theorem spellsItems_compact :
    (js : List Json) → js ≠ [] → SpellsItems (itemsToSource js) (compactItems js)
  | [],            hn => absurd rfl hn
  | [j],           _  => .last (spells_compact j).element
  | j :: j' :: js, _  =>
    .cons (spells_compact j).element <| spellsItems_compact (j' :: js) (List.cons_ne_nil j' js)

theorem spellsMembers_compact :
    (ms : List (String × Json)) → ms ≠ [] → SpellsMembers (membersToSource ms) (compactMembers ms)
  | [],                hn => absurd rfl hn
  | [(k, j)],          _  => by
    have h := spellsMembers_last k.toList .nil .nil (spells_compact j).element
    simpa [compactMembers, membersToSource] using h
  | (k, j) :: m :: ms, _  => by
    have hs := spellsMembers_compact (m :: ms) (List.cons_ne_nil m ms)
    have h := spellsMembers_cons k.toList .nil .nil (spells_compact j).element hs
    simpa [compactMembers, membersToSource] using h

end

end LintReport.Json.Source
