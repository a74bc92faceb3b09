import LintReport.Proofs.Command.Findings
import LintReport.Proofs.Config.Settings

namespace LintReport

open Json.Source (SpellsElement)
open Toml (Blanks Gap IsPlain RestOfLine SpellsEntries SpellsEntry SpellsItems SpellsScalar
  SpellsValue)

namespace Config.Written

def IsName (n : String) : Prop :=
  n.toList ≠ [] ∧ ∀ c ∈ n.toList, IsPlain c

instance (n : String) : Decidable (IsName n) :=
  decidable_of_iff (n.toList ≠ [] ∧ n.toList.all (IsPlain ·) = true) (by simp [IsName])

variable {n : String} {ns : List String}

theorem IsName.spells_quoted (h : IsName n) : SpellsScalar (.string n) (quoted n) := by
  have hs := SpellsScalar.string h.left h.right
  rwa [String.ofList_toList] at hs

theorem isName_code (code : Code) : IsName code.name := by
  cases code <;> decide

theorem gap_indent : Gap ['\n', ' ', ' ', ' ', ' '] :=
  .line .newline <| .blanks (b := [' ', ' ', ' ', ' ']) (by decide)

theorem spellsItems_elements (h : ∀ n ∈ ns, IsName n) :
    SpellsItems (ns.map .string) ('\n' :: ns.flatMap list.element) := by
  induction ns
  case nil => exact .nil <| .line .newline .nil
  case cons n ns ih =>
    have ⟨hn, hs⟩ := List.forall_mem_cons.mp h
    simpa [list.element] using SpellsItems.cons gap_indent hn.spells_quoted .nil (ih hs)

theorem spells_list (h : ∀ n ∈ ns, IsName n) : SpellsValue (.array (ns.map .string)) (list ns) := by
  match ns with
  | []           => exact .list <| .nil .nil
  | [n]          =>
    have hn := (h n <| .head _).spells_quoted
    simpa [list] using SpellsValue.list <| .last .nil hn .nil
  | n :: n' :: _ => simpa [list] using SpellsValue.list <| spellsItems_elements h

end Config.Written

namespace Setting

open Config.Written

variable (c : Config) (k : Setting) (ks : List Setting)

theorem spells_text : SpellsValue (k.toml c) (k.text c) := by
  cases k
  case failOn =>
    have h : IsName c.failOn.name := by cases c.failOn <;> decide
    exact .scalar h.spells_quoted
  case format =>
    have h : IsName c.format.name := by cases c.format <;> decide
    exact .scalar h.spells_quoted
  case ignore =>
    have h : ∀ n ∈ c.ignore.map (·.name), IsName n := by simp [isName_code]
    have hs := spells_list h
    rwa [List.map_map] at hs
  case color =>
    rw [toml, text]
    cases c.color
    case false => exact .scalar .false
    case true  => exact .scalar .true

theorem spells_entry : SpellsEntry (k.key, k.toml c) (k.key.toList ++ ' ' :: '=' :: ' ' :: k.text c) := by
  have hk : Toml.IsBareKey k.key := by cases k <;> decide
  have hb : Blanks [' '] := by decide
  simpa using SpellsEntry.intro hk hb hb (k.spells_text c)

theorem spells_lines : SpellsEntries (entries c ks) (lines c ks) := by
  induction ks
  case nil          => exact .nil .nil .absent
  case cons k ks ih =>
    simpa [lines, entries, entry] using SpellsEntries.cons .nil (k.spells_entry c) .newline ih

end Setting

namespace Config

theorem toToml_eq (c : Config) : c.toToml = String.ofList (Setting.lines c Setting.all) := by
  simp [toToml, Setting.lines, Setting.all, Setting.key, Setting.text]

variable {ks : List Setting}

theorem ofToml_lines (c : Config) (hn : ks.Nodup) :
    ofToml (String.ofList (Setting.lines c ks)) = .ok (c.only ks) :=
  ofToml_of_spells c hn <| by simpa using Setting.spells_lines c ks

theorem ofToml_toToml (c : Config) : ofToml c.toToml = .ok c := by
  rw [toToml_eq, ofToml_lines c (by decide), only_all]

theorem reads (c : Config) : reader.Reads 2 c.toJson c :=
  reads_members c (by decide : Setting.all.Nodup)

-- Configurations are the same after they were stored, or written in JSON, and read. Where only some
-- of the settings are written, each of them once, it matters neither in which order they come nor how
-- they are laid out: they are read back, and the others have their defaults.
theorem settings_read_back :
    (∀ c : Config,
      ofToml c.toToml = .ok c ∧ load (.ok c.toToml.toUTF8) = .ok c ∧
      Json.decode reader c.toJson.compact = .ok c ∧ Json.decode reader c.toJson.pretty = .ok c) ∧
    ∀ (c : Config) (ks : List Setting), ks.Nodup →
      ofToml (String.ofList (Setting.lines c ks)) = .ok (c.only ks) ∧
      (∀ text : String, SpellsEntries (Setting.entries c ks) text.toList →
        ofToml text = .ok (c.only ks)) ∧
      ∀ text : String, SpellsElement (Json.object (Setting.members c ks)).toSource text.toList →
        Json.decode reader text = .ok (c.only ks) := by
  refine ⟨fun c => ?whole, fun c ks hn => ?part⟩
  case whole =>
    have ht := c.ofToml_toToml
    exact ⟨ht, load_eq_ok_iff.mpr ⟨_, rfl, ht⟩, c.reads.decode_compact (by decide),
      c.reads.decode_pretty (by decide)⟩
  case part =>
    exact ⟨ofToml_lines c hn, fun _ h => ofToml_of_spells c hn h,
      fun _ h => (reads_members c hn).decode_spells (by decide) h⟩

-- Codes that are listed twice stay so. A comment makes no setting, and a line may be empty.
theorem settings_read_back_twice :
    let c : Config := {
      failOn := .any
      format := .json
      ignore := [.unusedVariable, .undefinedName, .unusedVariable]
      color  := false }
    load (.ok c.toToml.toUTF8) = .ok c ∧
    ofToml "color=false # quiet\n\nformat = \"json\"" = .ok { format := .json, color := false } ∧
    Json.decode reader (Json.object [("color", .bool false)]).pretty = .ok { color := false } := by
  intro c
  have hb : Blanks [' '] := by decide
  have hc : SpellsEntry ("color", .boolean false) "color=false".toList :=
    .intro (by decide) (nofun : Blanks []) (nofun : Blanks []) (.scalar .false)
  have hj : SpellsScalar (.string "json") "\"json\"".toList :=
    Written.IsName.spells_quoted (by decide)
  have hf : SpellsEntry ("format", .string "json") "format = \"json\"".toList :=
    .intro (by decide) hb hb (.scalar hj)
  have hl : RestOfLine " # quiet\n".toList :=
    .intro hb (.hash <| List.all_eq_true.mp (rfl : " quiet".toList.all Toml.isText = true)) .newline
  have ht : SpellsEntries (Setting.entries c [.color, .format])
      "color=false # quiet\n\nformat = \"json\"".toList :=
    .cons .nil hc hl <| .last (.line .newline .nil) hf (nofun : Blanks []) .absent
  exact ⟨(settings_read_back.1 c).2.1, (settings_read_back.2 c _ (by decide)).2.1 _ ht,
    (settings_read_back.2 c [.color] (by decide)).2.2 _ (Json.spellsElement_pretty _)⟩

end Config

end LintReport
