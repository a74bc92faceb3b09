import LintReport.Config.Json
import LintReport.Config.Toml
import LintReport.Proofs.Json.Record
import LintReport.Proofs.Json.Scan
import LintReport.Proofs.Toml.Scan

namespace LintReport

open Json (Reader Record Place membersToSource)

inductive Setting
  | failOn
  | format
  | ignore
  | color
deriving DecidableEq, Repr

namespace Setting

def all : List Setting :=
  [failOn, format, ignore, color]

def key : Setting → String
  | failOn => "fail_on"
  | format => "format"
  | ignore => "ignore"
  | color  => "color"

section Values

variable (c : Config)

def json : Setting → Json
  | failOn => c.failOn.toJson
  | format => c.format.toJson
  | ignore => .array (c.ignore.map (·.toJson))
  | color  => .bool c.color

def toml : Setting → Toml
  | failOn => .string c.failOn.name
  | format => .string c.format.name
  | ignore => .array (c.ignore.map fun x => .string x.name)
  | color  => .boolean c.color

def text : Setting → List Char
  | failOn => Config.Written.quoted c.failOn.name
  | format => Config.Written.quoted c.format.name
  | ignore => Config.Written.list (c.ignore.map (·.name))
  | color  => (toString c.color).toList

def members (ks : List Setting) : List (String × Json) :=
  ks.map fun k => (k.key, k.json c)

def entries (ks : List Setting) : Toml.Entries :=
  ks.map fun k => (k.key, k.toml c)

def lines (ks : List Setting) : List Char :=
  ks.flatMap fun k => Config.Written.entry k.key (k.text c)

end Values

theorem key_injective {k k' : Setting} (h : k.key = k'.key) : k = k' := by
  cases k <;> cases k' <;> first | rfl | simp [key] at h

end Setting

namespace Config

variable {c : Config} {s : Settings} {k k' : Setting} {ks : List Setting} {p : Place}

def only (c : Config) (ks : List Setting) : Config :=
  let default : Config := {}
  { failOn := if .failOn ∈ ks then c.failOn else default.failOn
    format := if .format ∈ ks then c.format else default.format
    ignore := if .ignore ∈ ks then c.ignore else default.ignore
    color  := if .color ∈ ks then c.color else default.color }

theorem only_all (c : Config) : c.only Setting.all = c :=
  rfl

namespace Settings

def put (c : Config) (s : Settings) : Setting → Settings
  | .failOn => { s with failOn := some c.failOn }
  | .format => { s with format := some c.format }
  | .ignore => { s with ignore := some c.ignore }
  | .color  => { s with color := some c.color }

def Lacks (s : Settings) : Setting → Prop
  | .failOn => s.failOn = none
  | .format => s.format = none
  | .ignore => s.ignore = none
  | .color  => s.color = none

theorem Lacks.put (h : s.Lacks k') (hk : k ≠ k') : (s.put c k).Lacks k' := by
  cases k <;> cases k' <;> first | exact h | exact absurd rfl hk

theorem foldl_put (c : Config) (ks : List Setting) (s : Settings) :
    ks.foldl (put c) s = {
      failOn := if .failOn ∈ ks then some c.failOn else s.failOn
      format := if .format ∈ ks then some c.format else s.format
      ignore := if .ignore ∈ ks then some c.ignore else s.ignore
      color  := if .color ∈ ks then some c.color else s.color } := by
  induction ks generalizing s
  case nil          => simp
  case cons k ks ih => cases k <;> simp [ih, put]

end Settings

theorem ofSettings_foldl_put (c : Config) (ks : List Setting) :
    ofSettings (ks.foldl (Settings.put c) {}) = c.only ks := by
  have hd {α : Type} (q : Prop) [Decidable q] (x d : α) :
      (if q then some x else none).getD d = if q then x else d := by split <;> rfl
  simp only [Settings.foldl_put, ofSettings, only, hd]

section Json

theorem reads_failOn (x : FailPolicy) : FailPolicy.reader.Reads 0 x.toJson x :=
  fun _ _ => by cases x <;> rfl

theorem reads_format (x : OutputFormat) : OutputFormat.reader.Reads 0 x.toJson x :=
  fun _ _ => by cases x <;> rfl

theorem reads_code (x : Code) : Code.reader.Reads 0 x.toJson x :=
  fun _ _ => by cases x <;> rfl

theorem reads_color (x : Bool) : Reader.bool.Reads 0 (.bool x) x :=
  fun _ _ => rfl

theorem readMembers_cons (hs : s.Lacks k) (hp : p.Allows 1) (ms : List (String × Json)) :
    Record.readMembers record.fields p (membersToSource ((k.key, k.json c) :: ms)) s =
    Record.readMembers record.fields p (membersToSource ms) (s.put c k) := by
  have h := hp.mono (Nat.zero_le 1)
  cases k <;> simp only [Setting.key, Setting.json]
  case failOn => rw [Record.readMembers_fill rfl hs (reads_failOn c.failOn) h]; rfl
  case format => rw [Record.readMembers_fill rfl hs (reads_format c.format) h]; rfl
  case ignore => rw [Record.readMembers_fill rfl hs (.list fun x _ => reads_code x) hp]; rfl
  case color  => rw [Record.readMembers_fill rfl hs (reads_color c.color) h]; rfl

theorem readMembers_members (hn : ks.Nodup) (hs : ∀ k ∈ ks, s.Lacks k) (hp : p.Allows 1) :
    Record.readMembers record.fields p (membersToSource (Setting.members c ks)) s =
    .ok (ks.foldl (Settings.put c) s) := by
  induction ks generalizing s
  case nil => rfl
  case cons k ks ih =>
    have ⟨hk, hn⟩ := List.nodup_cons.mp hn
    have ⟨hl, hls⟩ := List.forall_mem_cons.mp hs
    rw [Setting.members, List.map_cons, readMembers_cons hl hp]
    exact ih hn fun k' hk' => (hls k' hk').put fun he => hk (he ▸ hk')

theorem reads_members (c : Config) (hn : ks.Nodup) :
    reader.Reads 2 (.object (Setting.members c ks)) (c.only ks) := by
  intro p hp
  refine Record.read_object hp (readMembers_members hn (fun k _ => ?lacks) hp.inner) ?build
  case lacks => cases k <;> rfl
  case build => exact congrArg Except.ok (ofSettings_foldl_put c ks)

end Json

section Toml

theorem reads_codes (cs : List Code) :
    Toml.Reader.list (Toml.Reader.choice Code.options) (.array (cs.map fun x => .string x.name)) =
    .ok cs := by
  rw [Toml.Reader.list, mapM_eq_ok_iff]
  induction cs
  case nil          => exact .nil
  case cons c cs ih => exact .cons (by cases c <;> rfl) ih

theorem take_entry (c : Config) (s : Settings) (k : Setting) :
    s.take (k.key, k.toml c) = .ok (s.put c k) := by
  cases k
  case failOn =>
    have h : Toml.Reader.choice FailPolicy.options (.string c.failOn.name) = .ok c.failOn := by
      cases c.failOn <;> rfl
    simp only [Setting.key, Setting.toml, Settings.take, h, ok_bind]
    rfl
  case format =>
    have h : Toml.Reader.choice OutputFormat.options (.string c.format.name) = .ok c.format := by
      cases c.format <;> rfl
    simp only [Setting.key, Setting.toml, Settings.take, h, ok_bind]
    rfl
  case ignore =>
    simp only [Setting.key, Setting.toml, Settings.take, reads_codes, ok_bind]
    rfl
  case color  => rfl

theorem foldlM_take (c : Config) (ks : List Setting) (s : Settings) :
    (Setting.entries c ks).foldlM Settings.take s = .ok (ks.foldl (Settings.put c) s) := by
  induction ks generalizing s
  case nil          => rfl
  case cons k ks ih => rw [Setting.entries, List.map_cons, List.foldlM_cons, take_entry, ok_bind]; exact ih _

theorem ofToml_of_spells (c : Config) (hn : ks.Nodup) {text : String}
    (h : Toml.SpellsEntries (Setting.entries c ks) text.toList) : ofToml text = .ok (c.only ks) := by
  have hk : ((Setting.entries c ks).map (·.1)).Nodup := by
    rw [Setting.entries, List.map_map]
    exact hn.map fun _ _ => Setting.key_injective
  rw [ofToml, h.ofText_eq hk, mapError_ok, ok_bind, foldlM_take, ok_bind, ofSettings_foldl_put]
  rfl

end Toml

end Config

end LintReport
