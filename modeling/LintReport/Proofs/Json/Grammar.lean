import LintReport.Proofs.Json.Literal
import LintReport.Proofs.Json.Numeral

namespace LintReport.Json

def Blank (s : List Char) : Prop :=
  ∀ c ∈ s, isSpace c = true

namespace Blank

theorem nil : Blank [] :=
  fun _ h => absurd h List.not_mem_nil

theorem space : Blank [' '] := by
  simp [Blank, isSpace]

theorem newline (depth : ℕ) : Blank (newline depth) := by
  simp [Blank, Json.newline, isSpace]

end Blank

namespace Source

mutual

-- A text is well formed, and this is what stands in it.
inductive Spells : Source → List Char → Prop
  | null : Spells .null ['n', 'u', 'l', 'l']
  | bool (b : Bool) : Spells (.bool b) (Json.bool b).scalar
  | numeral {n : Numeral} {s : List Char} (h : n.Spells s) : Spells (.numeral n) s
  | string {s : List Char} (h : Literal.Body s) : Spells (.string (Literal.value s)) (Literal.quoted s)
  | emptyList {b : List Char} (hb : Blank b) : Spells (.list [] .closed) ('[' :: b ++ [']'])
  | list {vs : List Source} {s : List Char} (h : SpellsItems vs s) :
    Spells (.list vs .closed) ('[' :: s ++ [']'])
  | emptyObject {b : List Char} (hb : Blank b) :
    Spells (.object [] .closed) ('\x7b' :: b ++ ['\x7d'])
  | object {ms : List (Chars × Source)} {s : List Char} (h : SpellsMembers ms s) :
    Spells (.object ms .closed) ('\x7b' :: s ++ ['\x7d'])

inductive SpellsElement : Source → List Char → Prop
  | intro {v : Source} {b s t : List Char} (hb : Blank b) (h : Spells v s) (ht : Blank t) :
    SpellsElement v (b ++ s ++ t)

inductive SpellsItems : List Source → List Char → Prop
  | last {v : Source} {s : List Char} (h : SpellsElement v s) : SpellsItems [v] s
  | cons {v : Source} {vs : List Source} {s t : List Char} (h : SpellsElement v s)
    (hs : SpellsItems vs t) : SpellsItems (v :: vs) (s ++ ',' :: t)

inductive SpellsMembers : List (Chars × Source) → List Char → Prop
  | last {k : List Char} {v : Source} {b b' s : List Char} (hb : Blank b) (hk : Literal.Body k)
    (hb' : Blank b') (h : SpellsElement v s) :
    SpellsMembers [(Literal.value k, v)] (b ++ Literal.quoted k ++ b' ++ ':' :: s)
  | cons {k : List Char} {v : Source} {ms : List (Chars × Source)} {b b' s t : List Char}
    (hb : Blank b) (hk : Literal.Body k) (hb' : Blank b') (h : SpellsElement v s)
    (hs : SpellsMembers ms t) :
    SpellsMembers ((Literal.value k, v) :: ms) (b ++ Literal.quoted k ++ b' ++ ':' :: s ++ ',' :: t)

end

mutual

theorem Spells.skip_eq {v : Source} {s : List Char} : Spells v s → v.skip = .ok ()
  | .null | .bool _ | .numeral _ | .string _ => rfl
  | .emptyList _ | .emptyObject _            => rfl
  | .list h   => by rw [skip, h.skip_eq, ok_bind]; rfl
  | .object h => by rw [skip, h.skip_eq, ok_bind]; rfl

theorem SpellsElement.skip_eq {v : Source} {s : List Char} : SpellsElement v s → v.skip = .ok ()
  | .intro _ h _ => h.skip_eq

theorem SpellsItems.skip_eq {vs : List Source} {s : List Char} :
    SpellsItems vs s → skipItems vs = .ok ()
  | .last h    => by rw [skipItems, h.skip_eq, ok_bind, skipItems]
  | .cons h hs => by rw [skipItems, h.skip_eq, ok_bind, hs.skip_eq]

theorem SpellsMembers.skip_eq {ms : List (Chars × Source)} {s : List Char} :
    SpellsMembers ms s → skipMembers ms = .ok ()
  | .last _ _ _ h    => by rw [skipMembers, h.skip_eq, ok_bind, skipMembers]
  | .cons _ _ _ h hs => by rw [skipMembers, h.skip_eq, ok_bind, hs.skip_eq]

end

theorem Spells.element {v : Source} {s : List Char} (h : Spells v s) : SpellsElement v s := by
  simpa using SpellsElement.intro .nil h .nil

end Source

end LintReport.Json
