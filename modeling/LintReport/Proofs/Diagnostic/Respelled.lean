import LintReport.Proofs.Diagnostic.Json
import LintReport.Proofs.Json.Rearranged

namespace LintReport

open Json (Reader Record RecordField Place Rearranged Settles asNull missing membersToSource orFault)
open Json.Record (Orderly)

namespace Location

variable {l : Location} {j : Json}

def absent (l : Location) : List String :=
  missing "column" l.column

inductive Respelled (l : Location) : Json → Prop
  | intro {known ms : List (String × Json)} (hk : l.toJson = .object known)
    (h : Rearranged (record.fields.map (·.name)) l.absent known ms) : Respelled l (.object ms)

theorem orderly : Orderly record.fields := by
  refine .cons (.cons .nil (RecordField.filled_of fun _ _ => rfl) nofun)
    (RecordField.filled_of fun _ _ => rfl) ?_
  exact List.forall_mem_singleton.mpr <| .of (fun _ _ => rfl) (fun _ _ => rfl) (fun _ _ _ => rfl)

theorem readMembers_known {known : List (String × Json)} {nulls : List String} {p : Place}
    (hk : l.toJson = .object known) (hn : nulls.Sublist l.absent) (hp : p.Allows 0) :
    ∃ s, Record.readMembers record.fields p (membersToSource (known ++ asNull nulls)) {} = .ok s ∧
    record.build s = .ok l := by
  have ⟨line, column⟩ := l
  cases hk
  rw [List.cons_append, Record.readMembers_fill rfl rfl (.word32 line) hp]
  cases column
  case none =>
    obtain rfl | rfl := List.sublist_singleton.mp hn
    all_goals exact ⟨_, rfl, rfl⟩
  case some column =>
    obtain rfl : nulls = [] := List.sublist_nil.mp hn
    rw [Option.map_some, Option.toList_some, List.singleton_append,
      Record.readMembers_fill rfl rfl (.option (.word32 column) nofun) hp]
    exact ⟨_, rfl, rfl⟩

namespace Respelled

theorem refl (l : Location) : l.Respelled l.toJson :=
  .intro rfl <| .refl ..

theorem settles (h : l.Respelled j) : j.Settles 101 := by
  cases h
  case intro known ms hk h =>
    have ⟨added, hp, ha⟩ := h.exists_added
    have hl : ∀ m ∈ known, m.2.Settles 0 := Settles.object_iff.mp <| hk ▸ l.settles_toJson
    refine Settles.object_iff.mpr fun m hm => ?_
    obtain hm | hm := List.mem_append.mp <| hp.mem_iff.mpr hm
    · exact (hl m hm).mono (Nat.zero_le _)
    · exact (ha m hm).right

theorem reads (h : l.Respelled j) : reader.Reads 1 j l := by
  intro p hp
  cases h
  case intro known ms hk h =>
    have ⟨s, hs, hb⟩ := orderly.readMembers_rearranged h (fun f hf => List.mem_map_of_mem hf)
      fun nulls hn => readMembers_known hk hn hp.inner
    exact Record.read_object hp hs hb

end Respelled

end Location

namespace Kind

open Slots

variable {k : Kind} {j origin : Json} {p : Place}

def absent : Kind → List String
  | couldNotCompile reason line => missing "msg" reason ++ missing "line" line
  | _                           => []

def membersWith (origin : Json) (k : Kind) : List (String × Json) :=
  k.members.map fun m => if m.1 = "orig_loc" then (m.1, origin) else m

inductive Respelled (k : Kind) : Json → Prop
  | intro {origin : Json} {ms : List (String × Json)} (ho : ∀ l ∈ k.origin?, l.Respelled origin)
    (h : Rearranged ("code" :: (record k.code).fields.map (·.name)) k.absent
      (("code", k.code.toJson) :: k.membersWith origin) ms) : Respelled k (.object ms)

theorem orderly (c : Code) : Orderly (record c).fields := by
  cases c
  case redefinedWhileUnused | importShadowedByLoopVar | undefinedLocal | redefinedFunction |
      couldNotCompile =>
    refine .cons (.cons .nil (RecordField.filled_of fun _ _ => rfl) nofun)
      (RecordField.filled_of fun _ _ => rfl) ?_
    exact List.forall_mem_singleton.mpr <| .of (fun _ _ => rfl) (fun _ _ => rfl) (fun _ _ _ => rfl)
  all_goals exact .cons .nil (RecordField.filled_of fun _ _ => rfl) nofun

section Members

variable {c : Code} {n : ℕ} {ms ms' : List (String × Json)}

theorem findCode_perm (hp : (("code", c.toJson) :: ms).Perm ms')
    (hm : ∀ m ∈ ms, m.1 ≠ "code" ∧ m.2.Settles n) (hd : p.depth + n ≤ Json.Source.maxDepth) :
    findCode p (membersToSource ms') none = .ok (some c) := by
  obtain ⟨before, after, rfl⟩ := List.append_of_mem <| hp.mem_iff.mp <| .head _
  have hs := (List.perm_cons _).mp <| hp.trans List.perm_middle
  have ⟨hb, ha⟩ := List.forall_mem_append.mp fun m h => hm m (hs.mem_iff.mpr h)
  rw [findCode_append hb hd, findCode_code, findCode_of_settles ha hd]

end Members

theorem name_ne_origin (h : k.origin? = none) : ∀ m ∈ k.members, m.1 ≠ "orig_loc" := by
  cases k
  case couldNotCompile reason line => cases reason <;> cases line <;> simp [members, optional]
  case redefinedWhileUnused | importShadowedByLoopVar | undefinedLocal | redefinedFunction => cases h
  all_goals simp [members]

theorem membersWith_of_none (h : k.origin? = none) : k.membersWith origin = k.members :=
  (List.map_congr_left fun m hm => if_neg <| name_ne_origin h m hm).trans <| List.map_id _

theorem membersWith_toJson {l : Location} (h : k.origin? = some l) :
    k.membersWith l.toJson = k.members := by
  cases k
  case redefinedWhileUnused | importShadowedByLoopVar | undefinedLocal | redefinedFunction =>
    cases h
    rfl
  all_goals cases h

theorem readMembers_nulls {reason line : Option String} {nulls : List String}
    (hn : nulls.Sublist (missing "msg" reason ++ missing "line" line)) :
    ∃ s, Record.readMembers [reasonField, lineField] p (membersToSource
      (optional "msg" reason ++ optional "line" line ++ asNull nulls)) {} = .ok s ∧
    s.reason.getD none = reason ∧ s.line.getD none = line := by
  cases reason <;> cases line
  case none.none =>
    obtain hn | ⟨_, rfl, hn'⟩ := List.sublist_cons_iff.mp hn
    · obtain rfl | rfl := List.sublist_singleton.mp hn <;> exact ⟨_, rfl, rfl, rfl⟩
    · obtain rfl | rfl := List.sublist_singleton.mp hn' <;> exact ⟨_, rfl, rfl, rfl⟩
  case none.some line =>
    obtain rfl | rfl := List.sublist_singleton.mp hn
    all_goals exact ⟨_, rfl, rfl, by simp⟩
  case some.none reason =>
    obtain rfl | rfl := List.sublist_singleton.mp hn
    all_goals exact ⟨_, rfl, by simp, rfl⟩
  case some.some reason line =>
    obtain rfl : nulls = [] := List.sublist_nil.mp hn
    exact ⟨_, rfl, by simp, by simp⟩

theorem readMembers_known {nulls : List String} (ho : ∀ l ∈ k.origin?, l.Respelled origin)
    (hn : nulls.Sublist k.absent) (hp : p.Allows 1) :
    ∃ s, Record.readMembers (record k.code).fields p (membersToSource
      (("code", k.code.toJson) :: k.membersWith origin ++ asNull nulls)) {} = .ok s ∧
    (record k.code).build s = .ok k := by
  rw [List.cons_append, Record.readMembers_skip (name_ne_code k.code)]
  have h := hp.mono (Nat.zero_le 1)
  cases k
  case couldNotCompile reason line =>
    have ⟨s, hs, hr, hl⟩ := readMembers_nulls (p := p) hn
    rw [membersWith_of_none rfl]
    exact ⟨s, hs, by simp [record, code, hr, hl]⟩
  case lateFutureImport ns =>
    obtain rfl : nulls = [] := List.sublist_nil.mp hn
    rw [membersWith_of_none rfl, members, List.cons_append,
      Record.readMembers_fill rfl rfl (.list fun n _ => .string n) hp]
    exact ⟨_, rfl, rfl⟩
  case redefinedWhileUnused n l | importShadowedByLoopVar n l | undefinedLocal n l |
      redefinedFunction n l =>
    obtain rfl : nulls = [] := List.sublist_nil.mp hn
    have hl : l.Respelled origin := ho l rfl
    simp only [membersWith, members, List.map_cons, List.map_nil, String.reduceEq, if_true, if_false,
      List.cons_append, List.nil_append]
    rw [Record.readMembers_fill rfl rfl (.string n) h, Record.readMembers_fill rfl rfl hl.reads hp]
    exact ⟨_, rfl, rfl⟩
  all_goals
    obtain rfl : nulls = [] := List.sublist_nil.mp hn
    rw [membersWith_of_none rfl, members, List.cons_append,
      Record.readMembers_fill rfl rfl (.string _) h]
    exact ⟨_, rfl, rfl⟩

theorem settles_membersWith (ho : ∀ l ∈ k.origin?, l.Respelled origin) :
    ∀ m ∈ k.membersWith origin, m.1 ≠ "code" ∧ m.2.Settles 101 := by
  refine List.forall_mem_map.mpr fun m hm => ?_
  have ⟨hk, hs⟩ := k.settles_members m hm
  split
  case isTrue h  =>
    cases hl : k.origin?
    case none   => exact absurd h (name_ne_origin hl m hm)
    case some l => exact ⟨hk, (ho l hl).settles⟩
  case isFalse h => exact ⟨hk, hs.mono (by decide)⟩

theorem absent_ne_code : ∀ n ∈ k.absent, n ≠ "code" := by
  cases k
  case couldNotCompile reason line => cases reason <;> cases line <;> simp [absent, missing]
  all_goals exact fun _ h => absurd h List.not_mem_nil

namespace Respelled

theorem refl (k : Kind) : k.Respelled k.toJson := by
  have h (origin : Json) (ho : ∀ l ∈ k.origin?, l.Respelled origin)
      (hm : k.membersWith origin = k.members) : k.Respelled k.toJson :=
    .intro ho <| hm ▸ .refl ..
  cases ho : k.origin?
  case none   => exact h .null (by simp [ho]) (membersWith_of_none ho)
  case some l => exact h l.toJson (by simp [ho, Location.Respelled.refl]) (membersWith_toJson ho)

theorem reads (h : k.Respelled j) : reader.Reads 102 j k := by
  intro p hp
  cases h
  case intro origin ms ho h =>
    have ⟨added, hm, ha⟩ := h.exists_added
    have hc : findCode p.inner (membersToSource ms) none = .ok (some k.code) := by
      refine findCode_perm hm (List.forall_mem_append.mpr ⟨settles_membersWith ho, fun m hm => ?_⟩)
        hp.inner
      have ⟨hk, hs⟩ := ha m hm
      exact ⟨hk.elim (absent_ne_code m.1) fun hn he => hn (he ▸ .head _), hs.mono (by decide)⟩
    have ⟨s, hs, hb⟩ := (orderly k.code).readMembers_rearranged h
      (fun f hf => .tail _ <| List.mem_map_of_mem hf)
      fun nulls hn => readMembers_known (p := { p.inner with buffered := true }) ho hn
        (hp.inner.mono (by decide))
    simp only [Json.toSource, reader, hp.enter, ok_bind, hc, hs, Record.build', hb]
    rfl

end Respelled

end Kind

namespace Diagnostic

inductive Respelled (d : Diagnostic) : Json → Prop
  | intro {location kind : Json} {ms : List (String × Json)} (hl : d.location.Respelled location)
    (hk : d.kind.Respelled kind)
    (h : Rearranged (record.fields.map (·.name)) []
      [("filename", .string d.filename), ("location", location), ("kind", kind)] ms) :
    Respelled d (.object ms)

theorem orderly : Orderly record.fields := by
  refine .cons (.cons (.cons .nil (RecordField.filled_of fun _ _ => rfl) nofun)
    (RecordField.filled_of fun _ _ => rfl) ?_) (RecordField.filled_of fun _ _ => rfl) ?_
  · exact List.forall_mem_singleton.mpr <| .of (fun _ _ => rfl) (fun _ _ => rfl) (fun _ _ _ => rfl)
  · refine List.forall_mem_cons.mpr ⟨.of (fun _ _ => rfl) (fun _ _ => rfl) (fun _ _ _ => rfl), ?_⟩
    exact List.forall_mem_singleton.mpr <| .of (fun _ _ => rfl) (fun _ _ => rfl) (fun _ _ _ => rfl)

variable {d : Diagnostic} {j location kind : Json} {p : Place}

theorem readMembers_known {nulls : List String} (hl : d.location.Respelled location)
    (hk : d.kind.Respelled kind) (hn : nulls.Sublist []) (hp : p.Allows 102) :
    ∃ s, Record.readMembers record.fields p (membersToSource
      ([("filename", .string d.filename), ("location", location), ("kind", kind)] ++ asNull nulls)) {} =
      .ok s ∧
    record.build s = .ok d := by
  obtain rfl : nulls = [] := List.sublist_nil.mp hn
  rw [List.cons_append, List.cons_append, List.cons_append,
    Record.readMembers_fill rfl rfl (.string d.filename) (hp.mono (Nat.zero_le _)),
    Record.readMembers_fill rfl rfl hl.reads (hp.mono (by decide)),
    Record.readMembers_fill rfl rfl hk.reads hp]
  exact ⟨_, rfl, congrArg Except.ok d.make_eq⟩

theorem Respelled.refl (d : Diagnostic) : d.Respelled d.toJson :=
  .intro (.refl d.location) (.refl d.kind) (.refl ..)

theorem Respelled.reads (h : d.Respelled j) : reader.Reads 103 j d := by
  intro p hp
  cases h
  case intro location kind ms hl hk h =>
    have ⟨s, hs, hb⟩ := orderly.readMembers_rearranged h (fun f hf => List.mem_map_of_mem hf)
      fun nulls hn => readMembers_known hl hk hn hp.inner
    exact Record.read_object hp hs hb

-- However a diagnostic is spelled, it is read as itself: with its members and those of its parts in any
-- order, the code among them, with nulls in place of what is missing, with other members among them, and
-- with blanks.
theorem respelled_reads_back :
    (∀ d : Diagnostic, d.Respelled d.toJson) ∧
    ∀ (d : Diagnostic) (j : Json) (text : String), d.Respelled j →
      Json.Source.SpellsElement j.toSource text.toList → Json.decode reader text = .ok d :=
  ⟨.refl, fun _ _ _ h ht => h.reads.decode_spells (by decide) ht⟩

-- The code comes last, behind members that other kinds have.
theorem respelled_reads_back_reversed :
    let d : Diagnostic := .make (.redefinedFunction "f" ⟨3, none⟩) "a.py" ⟨7, some 0⟩
    let location : Json := .object [("column", .int 0), ("line", .int 7)]
    let origin : Json := .object [("end", .int 9), ("column", .null), ("line", .int 3)]
    let kind : Json := .object [
      ("names", .array [.null]), ("orig_loc", origin), ("name", .string "f"),
      ("code", .string "REDEFINED_FUNCTION")]
    let j : Json := .object [
      ("seen", .bool true), ("kind", kind), ("location", location), ("filename", .string "a.py")]
    Json.decode reader j.pretty = .ok d := by
  intro d location origin kind j
  have hl : d.location.Respelled location :=
    .intro rfl <| .intro (.refl []) (List.forall_mem_nil _) (List.reverse_perm _).symm
  have ho : Location.Respelled ⟨3, none⟩ origin := by
    have hm : ("end", Json.int 9).2.Settles 100 := ⟨⟨by decide, by decide⟩, by decide⟩
    exact .intro rfl <| .intro (.refl ["column"]) (List.forall_mem_singleton.mpr ⟨by decide, hm⟩)
      (List.reverse_perm _).symm
  have hk : d.kind.Respelled kind := by
    have hm : ("names", Json.array [.null]).2.Settles 100 := ⟨⟨trivial, trivial⟩, by decide⟩
    refine .intro (fun l hl => Option.some.inj hl ▸ ho) <| .intro (.refl [])
      (List.forall_mem_singleton.mpr ⟨by decide, hm⟩) (List.reverse_perm _).symm
  have hd : d.Respelled j := by
    have hm : ("seen", Json.bool true).2.Settles 100 := ⟨trivial, by decide⟩
    exact .intro hl hk <| .intro (.refl []) (List.forall_mem_singleton.mpr ⟨by decide, hm⟩)
      (List.reverse_perm _).symm
  exact respelled_reads_back.2 d j _ hd (Json.spellsElement_pretty j)

end Diagnostic

end LintReport
