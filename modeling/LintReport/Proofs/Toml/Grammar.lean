import LintReport.Toml.Document

namespace LintReport.Toml

def Blanks (s : List Char) : Prop :=
  ∀ c ∈ s, isBlank c = true

instance (s : List Char) : Decidable (Blanks s) :=
  decidable_of_iff (s.all isBlank = true) List.all_eq_true

inductive Comment : List Char → Prop
  | absent : Comment []
  | hash {s : List Char} (h : ∀ c ∈ s, isText c = true) : Comment ('#' :: s)

inductive LineEnd : List Char → Prop
  | newline : LineEnd ['\n']
  | carriage : LineEnd ['\r', '\n']

inductive RestOfLine : List Char → Prop
  | intro {b c e : List Char} (hb : Blanks b) (hc : Comment c) (he : LineEnd e) :
    RestOfLine (b ++ c ++ e)

-- What may stand before a statement or an element.
inductive Gap : List Char → Prop
  | blanks {b : List Char} (hb : Blanks b) : Gap b
  | line {l g : List Char} (hl : RestOfLine l) (hg : Gap g) : Gap (l ++ g)

theorem RestOfLine.newline : RestOfLine ['\n'] :=
  .intro (b := []) (c := []) nofun .absent .newline

theorem Gap.nil : Gap [] :=
  .blanks nofun

def IsPlain (c : Char) : Prop :=
  isText c = true ∧ c ≠ '"' ∧ c ≠ '\\'

instance (c : Char) : Decidable (IsPlain c) :=
  inferInstanceAs <| Decidable (_ ∧ _ ∧ _)

inductive SpellsScalar : Toml → List Char → Prop
  | string {s : List Char} (hn : s ≠ []) (h : ∀ c ∈ s, IsPlain c) :
    SpellsScalar (.string (String.ofList s)) ('"' :: s ++ ['"'])
  | true : SpellsScalar (.boolean true) ['t', 'r', 'u', 'e']
  | false : SpellsScalar (.boolean false) ['f', 'a', 'l', 's', 'e']

inductive SpellsItems : List Toml → List Char → Prop
  | nil {g : List Char} (hg : Gap g) : SpellsItems [] g
  | last {v : Toml} {g s g' : List Char} (hg : Gap g) (h : SpellsScalar v s) (hg' : Gap g') :
    SpellsItems [v] (g ++ s ++ g')
  | cons {v : Toml} {vs : List Toml} {g s g' t : List Char} (hg : Gap g) (h : SpellsScalar v s)
    (hg' : Gap g') (hs : SpellsItems vs t) : SpellsItems (v :: vs) (g ++ s ++ g' ++ ',' :: t)

inductive SpellsValue : Toml → List Char → Prop
  | scalar {v : Toml} {s : List Char} (h : SpellsScalar v s) : SpellsValue v s
  | list {vs : List Toml} {s : List Char} (h : SpellsItems vs s) :
    SpellsValue (.array vs) ('[' :: s ++ [']'])

def IsBareKey (k : String) : Prop :=
  k.toList ≠ [] ∧ ∀ c ∈ k.toList, isBare c = true

instance (k : String) : Decidable (IsBareKey k) :=
  decidable_of_iff (k.toList ≠ [] ∧ k.toList.all isBare = true) <| and_congr_right' List.all_eq_true

inductive SpellsEntry : String × Toml → List Char → Prop
  | intro {k : String} {v : Toml} {b b' s : List Char} (hk : IsBareKey k) (hb : Blanks b)
    (hb' : Blanks b') (h : SpellsValue v s) : SpellsEntry (k, v) (k.toList ++ b ++ '=' :: b' ++ s)

-- A document with these entries, each on a line of its own. The last line may go without an end.
inductive SpellsEntries : Entries → List Char → Prop
  | nil {g c : List Char} (hg : Gap g) (hc : Comment c) : SpellsEntries [] (g ++ c)
  | last {e : String × Toml} {g s b c : List Char} (hg : Gap g) (h : SpellsEntry e s)
    (hb : Blanks b) (hc : Comment c) : SpellsEntries [e] (g ++ s ++ b ++ c)
  | cons {e : String × Toml} {es : Entries} {g s l t : List Char} (hg : Gap g) (h : SpellsEntry e s)
    (hl : RestOfLine l) (ht : SpellsEntries es t) : SpellsEntries (e :: es) (g ++ s ++ l ++ t)

end LintReport.Toml
