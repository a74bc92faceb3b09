import LintReport.Command.Run
import LintReport.Proofs.Diagnostic.Json
import LintReport.Proofs.Json.Yields

namespace LintReport

theorem fromUTF8?_eq_some_iff {bytes : ByteArray} {s : String} :
    String.fromUTF8? bytes = some s ↔ bytes = s.toUTF8 := by
  constructor
  case mp =>
    intro h
    rw [String.fromUTF8?] at h
    split at h
    case isTrue  => cases h; rfl
    case isFalse => cases h
  case mpr =>
    rintro rfl
    exact dif_pos s.isValidUTF8

theorem decodeText_eq_ok_iff {bytes : ByteArray} {s : String} :
    decodeText bytes = .ok s ↔ bytes = s.toUTF8 := by
  rw [decodeText, ← fromUTF8?_eq_some_iff]
  cases String.fromUTF8? bytes
  case none => exact ⟨nofun, nofun⟩
  case some => rw [Except.ok.injEq, Option.some.injEq]

theorem bind_decodeText_eq_ok_iff {content : Except FileError ByteArray} {s : String} :
    content.bind decodeText = .ok s ↔ content = .ok s.toUTF8 := by
  cases content
  case error => exact ⟨nofun, nofun⟩
  case ok    => rw [Except.bind, decodeText_eq_ok_iff, Except.ok.injEq]

theorem Config.load_eq_ok_iff {content : Except FileError ByteArray} {c : Config} :
    load content = .ok c ↔ ∃ text : String, content = .ok text.toUTF8 ∧ ofToml text = .ok c := by
  simp only [load, bind_eq_ok_iff, mapError_eq_ok_iff, bind_decodeText_eq_ok_iff]

theorem Toml.dropLines_nil : dropLines [] = [] := by
  rw [dropLines]
  rfl

theorem Config.ofToml_empty : ofToml "" = .ok {} := by
  have hd : Toml.dropLines (Toml.dropMark "".toList) = [] := Toml.dropLines_nil
  have ht : Toml.ofText "" = .ok [] := by
    rw [Toml.ofText, Toml.statements, hd]
    rfl
  rw [ofToml, ht]
  rfl

namespace Command

theorem decodeText_toUTF8 (s : String) : decodeText s.toUTF8 = .ok s :=
  decodeText_eq_ok_iff.mpr rfl

namespace Surroundings

variable (w : Surroundings) (path : String) (config : Option String)

theorem configured_eq : w.configured config = { w with input := (w.configured config).input } := by
  have h (path : String) : w.after path = { w with input := (w.after path).input } := by
    unfold after; split <;> rfl
  cases config
  case some path => exact h path
  case none =>
    simp only [configured]
    split
    case isTrue  => exact h _
    case isFalse => rfl

@[simp]
theorem read_configured : (w.configured config).read = w.read := by
  rw [configured_eq]

@[simp]
theorem opens_configured : (w.configured config).opens = w.opens := by
  rw [configured_eq]

@[simp]
theorem writes_configured : (w.configured config).writes = w.writes := by
  rw [configured_eq]

@[simp]
theorem leadsToInput_configured : (w.configured config).leadsToInput = w.leadsToInput := by
  rw [configured_eq]

@[simp]
theorem timestamp_configured : (w.configured config).timestamp = w.timestamp := by
  rw [configured_eq]

@[simp]
theorem colors_configured : (w.configured config).colors = w.colors := by
  rw [configured_eq]

theorem input_configured {w w' : Surroundings} (hp : w'.present = w.present)
    (hl : w'.leadsToInput = w.leadsToInput) (hi : w'.input = w.input) :
    (w'.configured config).input = (w.configured config).input := by
  have h (path : String) : (w'.after path).input = (w.after path).input := by
    simp only [after, hl]
    split
    case isTrue  => rfl
    case isFalse => exact hi
  cases config
  case some path => exact h path
  case none =>
    simp only [configured, hp]
    split
    case isTrue  => exact h _
    case isFalse => exact hi

-- The configuration of a run is that of the file that is named. Where none is named, it is that of the
-- file in the directory, or the default if there is nothing at its path.
def Configures : Option String → Config → Prop
  | some path, c => ∃ text : String, w.content path = .ok text.toUTF8 ∧ Config.ofToml text = .ok c
  | none,      c =>
    if w.present defaultConfig then
      ∃ text : String, w.content defaultConfig = .ok text.toUTF8 ∧ Config.ofToml text = .ok c
    else
      c = {}

def inputBytes : Except FileError ByteArray :=
  if isInput path then .ok w.input else w.content path

theorem inputBytes_eq {w : Surroundings} {path : String} (h : w.content path = .ok w.input) :
    w.inputBytes path = .ok w.input := by
  rw [inputBytes, h, ite_self]

-- The input is a list, and each of its elements is one of the diagnostics.
def HandsOver (ds : List Diagnostic) : Prop :=
  ∃ (text : String) (items : List Json.Source),
    w.inputBytes path = .ok text.toUTF8 ∧ Json.Lists text items ∧
    List.Forall₂ (fun v d => Diagnostic.reader { depth := 1 } v = .ok d) items ds

theorem HandsOver.of_written {w : Surroundings} {path : String} {ds : List Diagnostic}
    (h : w.inputBytes path = .ok (Diagnostic.listToJson ds).compact.toUTF8) : w.HandsOver path ds := by
  have ⟨items, hl, hs⟩ := Json.decode_list_eq_ok_iff.mp (Diagnostic.decode_list ds).left
  exact ⟨_, items, h, hl, hs⟩

structure Finds (config : Option String) (input : String) (c : Config) (ds : List Diagnostic) :
    Prop where
  configures : w.Configures config c
  handsOver  : (w.configured config).HandsOver input ds

theorem Finds.congr {w w' : Surroundings} {config : Option String} {input : String} {c : Config}
    {ds : List Diagnostic} (h : w.Finds config input c ds) (hp : w'.present = w.present)
    (hr : w'.read = w.read) (hl : w'.leadsToInput = w.leadsToInput) (hi : w'.input = w.input) :
    w'.Finds config input c ds := by
  have hc (path : String) : w'.content path = w.content path := by
    rw [content, content, hr, hl, hi]
  refine ⟨?configures, ?handsOver⟩
  case configures =>
    cases config <;> simpa only [Configures, hc, hp] using h.configures
  case handsOver =>
    simpa [HandsOver, inputBytes, content, hr, hl, input_configured config hp hl hi] using h.handsOver

def Opens (output : Option String) : Prop :=
  ∀ path ∈ output, w.opens path = .ok ()

def Takes (output : Option String) (text : String) : Prop :=
  w.Opens output ∧ ∀ path ∈ output, w.writes path text = .ok ()

variable {w : Surroundings} {path : String}

theorem opens_some_iff : w.Opens (some path) ↔ w.opens path = .ok () := by
  simp [Opens]

theorem takes_none {text : String} : w.Takes none text :=
  ⟨nofun, nofun⟩

theorem takes_some_iff {text : String} :
    w.Takes (some path) text ↔ w.opens path = .ok () ∧ w.writes path text = .ok () := by
  simp [Takes, opens_some_iff]

end Surroundings

variable {w : Surroundings}

theorem loadConfig_eq_ok_iff {path : Option String} {c : Config} :
    loadConfig w path = .ok c ↔ w.Configures path c := by
  cases path
  case some path =>
    rw [loadConfig, mapError_eq_ok_iff, Config.load_eq_ok_iff, Surroundings.Configures]
  case none =>
    rw [loadConfig, Surroundings.Configures]
    split
    case isTrue  => rw [mapError_eq_ok_iff, Config.load_eq_ok_iff]
    case isFalse => rw [Except.ok.injEq, eq_comm]

theorem readInput_eq_ok_iff {path text : String} :
    readInput w path = .ok text ↔ w.inputBytes path = .ok text.toUTF8 := by
  rw [readInput, Surroundings.inputBytes]
  split
  case isTrue  => rw [mapError_eq_ok_iff, decodeText_eq_ok_iff, Except.ok.injEq]
  case isFalse => rw [mapError_eq_ok_iff, bind_decodeText_eq_ok_iff]

theorem readDiagnostics_congr {w' : Surroundings} {path : String}
    (h : w'.inputBytes path = w.inputBytes path) :
    readDiagnostics w' path = readDiagnostics w path := by
  have ht : readInput w' path = readInput w path := by
    rw [Surroundings.inputBytes, Surroundings.inputBytes] at h
    rw [readInput, readInput]
    split at h
    case isTrue hi  => rw [if_pos hi, if_pos hi, Except.ok.inj h]
    case isFalse hi => rw [if_neg hi, if_neg hi, h]
  rw [readDiagnostics, readDiagnostics, ht]

theorem readDiagnostics_eq_ok_iff {path : String} {ds : List Diagnostic} :
    readDiagnostics w path = .ok ds ↔ w.HandsOver path ds := by
  simp only [readDiagnostics, bind_eq_ok_iff, readInput_eq_ok_iff, mapError_eq_ok_iff,
    Diagnostic.listReader, Json.decode_list_eq_ok_iff, Surroundings.HandsOver, exists_and_left]

end Command

end LintReport
