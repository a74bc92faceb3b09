import LintReport.Diagnostic.Json
import LintReport.Proofs.Json.Record
import LintReport.Proofs.Json.Scan

namespace LintReport

open Json (Reader Record RecordField Place Settles orFault membersToSource)

theorem Location.reads (l : Location) : reader.Reads 1 l.toJson l := by
  intro p hp
  have ⟨line, column⟩ := l
  cases column
  case none =>
    refine Record.read_object hp (s := { line := some line }) ?_ rfl
    rw [Record.readMembers_fill rfl rfl (.word32 line) hp.inner]
    rfl
  case some column =>
    refine Record.read_object hp (s := { line := some line, column := some (some column) }) ?_ rfl
    rw [Record.readMembers_fill rfl rfl (.word32 line) hp.inner, Option.map_some, Option.toList_some,
      Record.readMembers_fill rfl rfl (.option (.word32 column) nofun) hp.inner]
    rfl

theorem Location.settles_toJson (l : Location) : l.toJson.Settles 1 := by
  have hw (w : UInt32) : (Json.int w.toNat).Settles 0 :=
    have := w.toNat_lt
    ⟨⟨by omega, by omega⟩, Nat.le_refl 0⟩
  have ⟨line, column⟩ := l
  cases column <;> simp [toJson, Settles.object_iff, hw]

namespace Kind

open Slots

variable {p : Place} {ms : List (String × Json)}

theorem variant_toJson (c : Code) : Reader.variant codes p c.toJson.toSource = .ok c := by
  cases c <;> rfl

theorem findCode_code (c : Code) :
    findCode p (membersToSource (("code", c.toJson) :: ms)) none =
    findCode p (membersToSource ms) (some c) := by
  rw [membersToSource, findCode]
  simp [orFault, variant_toJson]

theorem findCode_append {ms' : List (String × Json)} {n : ℕ} {code : Option Code}
    (h : ∀ m ∈ ms, m.1 ≠ "code" ∧ m.2.Settles n) (hd : p.depth + n ≤ Json.Source.maxDepth) :
    findCode p (membersToSource (ms ++ ms')) code = findCode p (membersToSource ms') code := by
  induction ms
  case nil => rfl
  case cons m ms ih =>
    have ⟨⟨hk, hs⟩, hms⟩ := List.forall_mem_cons.mp h
    rw [List.cons_append, membersToSource, findCode]
    simp [orFault, hs.settle_eq hd, hk, ih hms]

theorem findCode_of_settles {n : ℕ} {code : Option Code}
    (h : ∀ m ∈ ms, m.1 ≠ "code" ∧ m.2.Settles n) (hd : p.depth + n ≤ Json.Source.maxDepth) :
    findCode p (membersToSource ms) code = .ok code := by
  rw [← ms.append_nil, findCode_append h hd]
  rfl

theorem settles_members (k : Kind) : ∀ m ∈ k.members, m.1 ≠ "code" ∧ m.2.Settles 1 := by
  cases k
  case lateFutureImport ns => simp [members, Settles.array_iff]
  case couldNotCompile reason line => cases reason <;> cases line <;> simp [members, optional]
  case redefinedWhileUnused _ l | importShadowedByLoopVar _ l | undefinedLocal _ l |
      redefinedFunction _ l => simp [members, l.settles_toJson]
  all_goals simp [members]

theorem name_ne_code (c : Code) : ∀ f ∈ (record c).fields, f.name ≠ "code" := by
  cases c <;>
    simp [record, named, located, nameField, originField, moduleField, reasonField, lineField,
      namesField, RecordField.of]

theorem readMembers_optional (reason line : Option String) (hp : p.Allows 0) :
    Record.readMembers [reasonField, lineField] p
      (membersToSource (optional "msg" reason ++ optional "line" line)) {} =
    .ok { reason := reason.map some, line := line.map some } := by
  have hr := fun s => Reader.Reads.option (.string s) (nofun : Json.string s ≠ .null)
  cases reason
  case none =>
    cases line
    case none      => rfl
    case some line =>
      rw [optional, optional, List.nil_append, Record.readMembers_fill rfl rfl (hr line) hp]
      rfl
  case some reason =>
    rw [optional, List.singleton_append, Record.readMembers_fill rfl rfl (hr reason) hp]
    cases line
    case none      => rfl
    case some line =>
      rw [optional, Record.readMembers_fill rfl rfl (hr line) hp]
      rfl

theorem readMembers_members (k : Kind) (hp : p.Allows 1) :
    ∃ s, Record.readMembers (record k.code).fields p
      (membersToSource (("code", k.code.toJson) :: k.members)) {} = .ok s ∧
    (record k.code).build s = .ok k := by
  rw [Record.readMembers_skip (name_ne_code k.code)]
  have h := hp.mono (Nat.zero_le 1)
  cases k
  case lateFutureImport ns =>
    rw [members, Record.readMembers_fill rfl rfl (.list fun n _ => .string n) hp]
    exact ⟨_, rfl, rfl⟩
  case couldNotCompile reason line =>
    exact ⟨_, readMembers_optional reason line h, by cases reason <;> cases line <;> rfl⟩
  case redefinedWhileUnused n l | importShadowedByLoopVar n l | undefinedLocal n l |
      redefinedFunction n l =>
    rw [members, Record.readMembers_fill rfl rfl (.string n) h,
      Record.readMembers_fill rfl rfl l.reads hp]
    exact ⟨_, rfl, rfl⟩
  all_goals
    rw [members, Record.readMembers_fill rfl rfl (.string _) h]
    exact ⟨_, rfl, rfl⟩

theorem reads (k : Kind) : reader.Reads 2 k.toJson k := by
  intro p hp
  have hc : findCode p.inner (membersToSource (("code", k.code.toJson) :: k.members)) none =
      .ok (some k.code) := by
    rw [findCode_code, findCode_of_settles k.settles_members hp.inner]
  have ⟨s, hs, hb⟩ := k.readMembers_members (p := { p.inner with buffered := true }) hp.inner
  simp only [toJson, Json.toSource, reader, hp.enter, ok_bind, hc, hs, Record.build', hb]
  rfl

end Kind

theorem Diagnostic.make_eq (d : Diagnostic) : make d.kind d.filename d.location = d := by
  have ⟨f, l, k, hl, hk⟩ := d
  simp only [make, hl, hk]

theorem Diagnostic.reads (d : Diagnostic) : reader.Reads 3 d.toJson d := by
  intro p hp
  have hi := hp.inner
  refine Record.read_object hp
    (s := { filename := some d.filename, location := some d.location, kind := some d.kind })
    ?members ?build
  case members =>
    rw [Record.readMembers_fill rfl rfl (.string d.filename) (hi.mono (by decide)),
      Record.readMembers_fill rfl rfl d.location.reads (hi.mono (by decide)),
      Record.readMembers_fill rfl rfl d.kind.reads hi]
    rfl
  case build => exact congrArg Except.ok d.make_eq

theorem Diagnostic.reads_list (ds : List Diagnostic) : listReader.Reads 4 (listToJson ds) ds :=
  .list fun d _ => d.reads

theorem Diagnostic.decode_list (ds : List Diagnostic) :
    Json.decode listReader (listToJson ds).compact = .ok ds ∧
    Json.decode listReader (listToJson ds).pretty = .ok ds :=
  ⟨(reads_list ds).decode_compact (by decide), (reads_list ds).decode_pretty (by decide)⟩

-- Whatever their parts are, diagnostics and kinds are the same after they were written, with blanks or
-- without, and read. An empty reason or line of a kind is not lost.
theorem Diagnostic.written_reads_back :
    (∀ ds : List Diagnostic,
      Json.decode listReader (listToJson ds).compact = .ok ds ∧
      Json.decode listReader (listToJson ds).pretty = .ok ds) ∧
    ∀ k : Kind,
      Json.decode Kind.reader k.toJson.compact = .ok k ∧
      Json.decode Kind.reader k.toJson.pretty = .ok k :=
  ⟨decode_list, fun k => ⟨k.reads.decode_compact (by decide), k.reads.decode_pretty (by decide)⟩⟩

end LintReport
