import LintReport.Proofs.Report.Loading

namespace LintReport

open Json (Reader Record RecordField Source Chars Place IsOther orFault)
open Json.Source (SpellsElement)

namespace Entry

-- An entry is written as an object with this diagnostic, whatever members have another name.
inductive Holds (d : Source) : Source → Prop
  | intro {before after : List (Chars × Source)} (hb : ∀ m ∈ before, IsOther ["diagnostic"] m)
    (ha : ∀ m ∈ after, IsOther ["diagnostic"] m) :
    Holds d (.object (before ++ (.ok "diagnostic".toList, d) :: after) .closed)

variable {d v v' : Source} {p : Place} {s : Slots} {ms ms' : List (Chars × Source)}

theorem readMembers_append (h : ∀ m ∈ ms, IsOther ["diagnostic"] m)
    (hs : Source.skipMembers ms = .ok ()) :
    Record.readMembers record.fields p (ms ++ ms') s = Record.readMembers record.fields p ms' s :=
  Record.readMembers_append h hs

theorem readMembers_others (h : ∀ m ∈ ms, IsOther ["diagnostic"] m)
    (hs : Source.skipMembers ms = .ok ()) : Record.readMembers record.fields p ms s = .ok s := by
  have h : Record.readMembers record.fields p (ms ++ []) s = .ok s := readMembers_append h hs
  rwa [List.append_nil] at h

theorem readMembers_diagnostic :
    Record.readMembers record.fields p ((.ok "diagnostic".toList, d) :: ms) {} = (do
      let x ← Diagnostic.reader p d
      Record.readMembers record.fields p ms { diagnostic := some x }) := by
  have hf : record.fields.find? (·.name = String.ofList "diagnostic".toList) =
      some (.of "diagnostic" Diagnostic.reader (·.diagnostic) (fun x s => { s with diagnostic := x })
        false) := by
    simp [record, RecordField.of]
  simp only [Record.readMembers, orFault, mapError_ok, ok_bind, hf, RecordField.of]
  cases Diagnostic.reader p d <;> rfl

theorem Holds.reader_eq (h : Holds d v) (hv : v.skip = .ok ()) (p : Place) :
    reader p v = (do
      let p ← p.enter
      (Diagnostic.reader p d).map .of) := by
  cases h
  case intro before after hb ha =>
    have ⟨hbs, has⟩ := Source.skipMembers_append_iff.mp <| Source.skip_object_iff.mp hv
    have has := (Source.skipMembers_cons_iff.mp has).right
    simp only [reader, Record.read, readMembers_append hb hbs, readMembers_diagnostic,
      readMembers_others ha has]
    cases p.enter
    case error => rfl
    case ok p =>
      simp only [ok_bind]
      cases Diagnostic.reader p d <;> rfl

def Alike (v v' : Source) : Prop :=
  ∃ d, Holds d v ∧ Holds d v'

theorem forall₂_reader_eq {vs vs' : List Source} (h : List.Forall₂ Alike vs vs')
    (hs : Source.skipItems vs = .ok ()) (hs' : Source.skipItems vs' = .ok ()) :
    List.Forall₂ (fun v v' => ∀ p, reader p v = reader p v') vs vs' := by
  induction h
  case nil => exact .nil
  case cons h _ ih =>
    have ⟨hv, hvs⟩ := Source.skipItems_cons_iff.mp hs
    have ⟨hv', hvs'⟩ := Source.skipItems_cons_iff.mp hs'
    have ⟨d, hd, hd'⟩ := h
    exact .cons (fun p => by rw [hd.reader_eq hv, hd'.reader_eq hv']) (ih hvs hvs')

end Entry

namespace Report

inductive AlikeMember : Chars × Source → Chars × Source → Prop
  | refl (m : Chars × Source) : AlikeMember m m
  | entries {vs vs' : List Source} (h : List.Forall₂ Entry.Alike vs vs') :
    AlikeMember (.ok "entries".toList, .list vs .closed) (.ok "entries".toList, .list vs' .closed)

-- Two reports, written as objects or as lists, differ at most in their entries, which are objects with the
-- same diagnostics.
inductive Alike : Source → Source → Prop
  | object {ms ms' : List (Chars × Source)} (h : List.Forall₂ AlikeMember ms ms') :
    Alike (.object ms .closed) (.object ms' .closed)
  | list (version timestamp summary : Source) {vs vs' : List Source}
    (h : List.Forall₂ Entry.Alike vs vs') :
    Alike (.list [version, timestamp, summary, .list vs .closed] .closed)
      (.list [version, timestamp, summary, .list vs' .closed] .closed)

variable {v v' : Source} {p : Place} {s : Slots} {m m' : Chars × Source}
  {ms ms' : List (Chars × Source)}

theorem AlikeMember.readMembers_eq (h : AlikeMember m m') (hs : m.2.skip = .ok ())
    (hs' : m'.2.skip = .ok ()) :
    Record.readMembers record.fields p (m :: ms) s =
    Record.readMembers record.fields p (m' :: ms) s := by
  cases h
  case refl => rfl
  case entries h =>
    have he := Entry.forall₂_reader_eq h (Source.skip_list_iff.mp hs) (Source.skip_list_iff.mp hs')
    have hf : record.fields.find? (·.name = String.ofList "entries".toList) =
        some (.of "entries" (.list Entry.reader) (·.entries) (fun x s => { s with entries := x })
          false) := by
      simp [record, RecordField.of]
    simp only [Record.readMembers, orFault, mapError_ok, ok_bind, hf, RecordField.of,
      Reader.list_congr he]

theorem readMembers_eq_of_alike (h : List.Forall₂ AlikeMember ms ms')
    (hs : Source.skipMembers ms = .ok ()) (hs' : Source.skipMembers ms' = .ok ()) :
    Record.readMembers record.fields p ms s = Record.readMembers record.fields p ms' s := by
  induction h generalizing s
  case nil => rfl
  case cons m m' ms ms' h _ ih =>
    have ⟨hm, hms⟩ := Source.skipMembers_cons_iff.mp hs
    have ⟨hm', hms'⟩ := Source.skipMembers_cons_iff.mp hs'
    calc Record.readMembers record.fields p (m :: ms) s
      _ = Record.readMembers record.fields p (m' :: ms) s  := h.readMembers_eq hm hm'
      _ = Record.readMembers record.fields p (m' :: ms') s :=
        Record.readMembers_congr_tail fun _ => ih hms hms'

theorem Alike.reader_eq (h : Alike v v') (hs : v.skip = .ok ()) (hs' : v'.skip = .ok ())
    (p : Place) : reader p v = reader p v' := by
  cases h
  case object h =>
    simp only [reader, Record.read,
      readMembers_eq_of_alike h (Source.skip_object_iff.mp hs) (Source.skip_object_iff.mp hs')]
  case list h =>
    simp only [Source.skip_list_iff, Source.skipItems_cons_iff] at hs hs'
    have he := Entry.forall₂_reader_eq h hs.right.right.right.left hs'.right.right.right.left
    simp only [reader, Record.read, record, Record.readItems, RecordField.of, Reader.list_congr he]

def AlikeTexts (t t' : String) : Prop :=
  ∃ v v', SpellsElement v t.toList ∧ SpellsElement v' t'.toList ∧ Alike v v'

theorem AlikeTexts.load_eq {t t' : String} (h : AlikeTexts t t') : load t = load t' := by
  have ⟨v, v', ht, ht', h⟩ := h
  rw [load, load, ht.decode_eq, ht'.decode_eq, h.reader_eq ht.skip_eq ht'.skip_eq]

inductive Action.Alike : Action → Action → Prop
  | step (s : Step) : Alike (.step s) (.step s)
  | load {t t' : String} (h : AlikeTexts t t') : Alike (.load t) (.load t')

variable {r r' : Report} {a a' : Action} {as as' : List Action} {answers : List Bool}

namespace Restorable

theorem act (h : r.Restorable) (ha : r.act a = .ok (r', answers)) : r'.Restorable := by
  cases a
  case step s => exact h.step ha
  case load t =>
    have ⟨_, hl, he⟩ := bind_eq_ok_iff.mp ha
    cases he
    exact restorable_of_load <| mapError_eq_ok_iff.mp hl

theorem session (h : r.Restorable) (ha : r.session as = .ok (r', answers)) : r'.Restorable := by
  induction as generalizing r answers
  case nil => cases ha; exact h
  case cons a as ih =>
    have ⟨⟨_, _⟩, hf, hb⟩ := bind_eq_ok_iff.mp ha
    have ⟨⟨_, _⟩, hs, he⟩ := bind_eq_ok_iff.mp hb
    cases he
    exact ih (h.act hf) hs

end Restorable

theorem Action.Alike.act_eq (h : a.Alike a') : r.act a = r.act a' := by
  cases h
  case step   => rfl
  case load h => simp only [act, h.load_eq]

theorem session_eq_of_alike (h : List.Forall₂ Action.Alike as as') : r.session as = r.session as' := by
  induction h generalizing r
  case nil         => rfl
  case cons h _ ih => simp only [session, h.act_eq, ih]

-- Whatever text is loaded, each entry is the one of its diagnostic, and so it stays in every session. What
-- a text says about an entry beside its diagnostic changes neither the entry nor anything that follows.
theorem entries_follow_diagnostics :
    (∀ {text : String} {e : Entry}, Json.decode Entry.reader text = .ok e → e = .of e.diagnostic) ∧
    (∀ {text : String} {r : Report}, load text = .ok r →
      r.Canonical ∧ r.lines = r.diagnostics.map (·.rendered)) ∧
    (∀ {d v v' : Source} {t t' : String}, SpellsElement v t.toList → SpellsElement v' t'.toList →
      Entry.Holds d v → Entry.Holds d v' →
      Json.decode Entry.reader t = Json.decode Entry.reader t') ∧
    (∀ {t t' : String}, AlikeTexts t t' → load t = load t') ∧
    (∀ {text : String} {start r : Report} {as : List Action} {answers : List Bool},
      load text = .ok start → start.session as = .ok (r, answers) →
      r.Canonical ∧ r.lines = r.diagnostics.map (·.rendered) ∧ load r.stored = .ok r) ∧
    ∀ {start : Report} {as as' : List Action}, List.Forall₂ Action.Alike as as' →
      start.session as = start.session as' := by
  refine ⟨fun h => Entry.reader_yields.decode h, fun h => ?load, fun ht ht' h h' => ?entry,
    AlikeTexts.load_eq, fun h hs => ?session, session_eq_of_alike⟩
  case load =>
    have hc := (restorable_of_load h).canonical
    exact ⟨hc, hc.lines_eq⟩
  case entry =>
    rw [ht.decode_eq, ht'.decode_eq, h.reader_eq ht.skip_eq, h'.reader_eq ht'.skip_eq]
  case session =>
    have hr := (restorable_of_load h).session hs
    exact ⟨hr.canonical, hr.canonical.lines_eq, hr.load_stored⟩

theorem entries_follow_diagnostics_forged :
    let d : Diagnostic := .make (.undefinedName "x") "a.py" ⟨2, some 0⟩
    let r := ofDiagnostics "" { : Config }.ignore [d]
    let forged : Json := .object [("rendered", .string "a.py:99: [W] forged"),
      ("diagnostic", d.toJson), ("severe", .bool false)]
    let text := (Json.object [("version", r.version.toJson), ("timestamp", .string r.timestamp),
      ("summary", r.summary.toJson), ("entries", .array [forged])]).pretty
    Json.decode Entry.reader forged.pretty = Json.decode Entry.reader (Entry.of d).toJson.pretty ∧
    load text = .ok r ∧ r.lines = [d.rendered] ∧
    (empty "").session [.load text, .step (.add d)] =
      (empty "").session [.load r.stored, .step (.add d)] := by
  intro d r forged text
  have ⟨_, hc, he, ht, _, hs⟩ := entries_follow_diagnostics
  have hr : load r.stored = .ok r :=
    (Start.ofDiagnostics "" {} [d] (by decide : 1 < Summary.limit)).storable.load_stored
  have hd : r.entries = [.of d] := by
    rw [entries_ofDiagnostics]
    simp [kept, sortBy, List.eraseDups_cons]
  have hj : r.toJson = .object [("version", r.version.toJson), ("timestamp", .string r.timestamp),
      ("summary", r.summary.toJson), ("entries", .array [(Entry.of d).toJson])] := by
    rw [toJson, hd]
    rfl
  have h₁ : Entry.Holds d.toJson.toSource forged.toSource :=
    @Entry.Holds.intro _ [_] [_] (by simp [IsOther]) (by simp [IsOther])
  have h₂ : Entry.Holds d.toJson.toSource (Entry.of d).toJson.toSource :=
    @Entry.Holds.intro _ [] [_, _, _, _, _, _] (by simp) (by simp [IsOther])
  have ha : AlikeTexts text r.stored := by
    rw [stored, hj]
    exact ⟨_, _, Json.spellsElement_pretty _, Json.spellsElement_pretty _,
      .object <| .cons (.refl _) <| .cons (.refl _) <| .cons (.refl _) <|
        .cons (.entries <| .cons ⟨_, h₁, h₂⟩ .nil) .nil⟩
  refine ⟨he (Json.spellsElement_pretty _) (Json.spellsElement_pretty _) h₁ h₂, (ht ha).trans hr, ?_,
    hs <| .cons (.load ha) <| .cons (.step _) .nil⟩
  rw [(hc hr).right, diagnostics, hd]
  rfl

end Report

end LintReport
