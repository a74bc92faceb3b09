import LintReport.Proofs.Command.Outcome
import LintReport.Proofs.Config.Written

namespace LintReport

theorem stripSuffix?_append (start suffix : List Char) :
    stripSuffix? suffix (start ++ suffix) = some start := by
  rw [stripSuffix?, if_pos (by simp)]
  simp

namespace Diagnostic

variable (d : Diagnostic)

def tagText : String :=
  "[" ++ d.severity.tag ++ "]"

def ending : String :=
  d.tagText ++ " " ++ d.message

theorem rendered_eq : d.rendered = d.place ++ ": " ++ d.ending := by
  refine String.toList_inj.mp ?_
  simp [rendered, ending, tagText]

theorem stripSuffix?_rendered :
    stripSuffix? d.ending.toList d.rendered.toList = some (d.place ++ ": ").toList := by
  rw [rendered_eq, String.toList_append]
  exact stripSuffix?_append _ _

theorem painted_of (colored : Bool) :
    (Entry.of d).painted colored =
    d.place ++ ": " ++ d.severity.paint.on colored d.tagText ++ " " ++ d.message := by
  have h := d.stripSuffix?_rendered
  simp only [ending, tagText] at h
  simp only [Entry.painted, Entry.of, h, String.ofList_toList]
  rfl

theorem painted_of_false : (Entry.of d).painted false = d.rendered := by
  rw [painted_of, rendered_eq, ending]
  simp [Paint.on, String.append_assoc]

end Diagnostic

namespace Command

def Outcome.unprinted (o : Outcome) : Outcome :=
  { o with output := "" }

namespace Task

def input? : Task → Option String
  | report input _ _ _ => some input
  | codes _            => none

def Stores (c : Config) : Task → Prop
  | report _ format _ _ => format.getD c.format = .json
  | codes _             => False

end Task

-- A task finds the same in both surroundings, but perhaps for colors.
structure Surroundings.Alike (w w' : Surroundings) (t : Task) : Prop where
  inputBytes : ∀ path ∈ t.input?, w'.inputBytes path = w.inputBytes path
  opens      : w'.opens = w.opens
  writes     : w'.writes = w.writes
  timestamp  : w'.timestamp = w.timestamp

variable {w w' : Surroundings} {colors color : Bool} {args : List String} {i : Invocation} {c : Config}
  {t : Task}

namespace Surroundings.Alike

theorem configured_colors (w : Surroundings) (colors : Bool) (config : Option String) (t : Task) :
    (w.configured config).Alike ({ w with colors }.configured config) t where
  inputBytes _ _ := by
    have hi : ({ w with colors }.configured config).input = (w.configured config).input :=
      input_configured config rfl rfl rfl
    simp [Surroundings.inputBytes, content, hi]
  opens      := by rw [opens_configured, opens_configured]
  writes     := by rw [writes_configured, writes_configured]
  timestamp  := by rw [timestamp_configured, timestamp_configured]

theorem runTask_unprinted (h : w.Alike w' t) :
    (runTask w' { c with color } t).map (·.unprinted) = (runTask w c t).map (·.unprinted) := by
  have ho (s s' : String) :
      Except.map Outcome.unprinted (.ok { status := 0, output := s } : Except Failure Outcome) =
      Except.map Outcome.unprinted (.ok { status := 0, output := s' }) := rfl
  cases t
  case report input format output failOn =>
    have hr := readDiagnostics_congr (h.inputBytes input rfl)
    simp only [runTask, runReport, hr, deliver_congr h.opens h.writes, h.timestamp]
    cases readDiagnostics w input
    case error => rfl
    case ok ds =>
      simp only [ok_bind]
      cases format.getD c.format <;> cases output
      case text.none =>
        simp only [deliver, ok_bind]
        split <;> rfl
      all_goals rfl
  case codes code =>
    cases code
    case none => exact ho _ _
    case some name =>
      simp only [runTask, runCodes]
      cases Code.ofSpelling name
      case ok    => exact ho _ _
      case error => rfl

theorem runTask_eq (h : w.Alike w' t) (hc : (w'.colors && color) = (w.colors && c.color) ∨ t.Stores c) :
    runTask w' { c with color } t = runTask w c t := by
  cases t
  case report input format output failOn =>
    have hr := readDiagnostics_congr (h.inputBytes input rfl)
    simp only [runTask, runReport, hr, deliver_congr h.opens h.writes, h.timestamp]
    obtain hc | hc := hc
    case inl => simp only [hc]
    case inr =>
      have hf : format.getD c.format = .json := hc
      simp only [hf]
      cases output <;> rfl
  case codes => simp only [runTask, runCodes, hc.resolve_right id]

end Surroundings.Alike

section Runs

variable (hp : parse args = .ok i)
  (ha : (w.configured i.config).Alike (w'.configured i.config) i.task)
include hp ha

theorem run_unprinted {f : Config → Bool}
    (hc : loadConfig w' i.config = (loadConfig w i.config).map fun c => { c with color := f c }) :
    (run w' args).unprinted = (run w args).unprinted := by
  have h : (perform w' i).map (·.unprinted) = (perform w i).map (·.unprinted) := by
    rw [perform, perform, hc]
    cases loadConfig w i.config
    case error => rfl
    case ok c  => exact ha.runTask_unprinted
  simp only [run, hp]
  cases hw' : perform w' i <;> cases hw : perform w i <;> rw [hw', hw] at h
  case ok.ok       => exact Except.ok.inj h
  case error.error => rw [Except.error.inj h]
  all_goals cases h

theorem run_congr {f : Config → Bool}
    (hc : loadConfig w' i.config = (loadConfig w i.config).map fun c => { c with color := f c })
    (h : ∀ c, w.Configures i.config c → (w'.colors && f c) = (w.colors && c.color) ∨ i.task.Stores c) :
    run w' args = run w args := by
  have h : perform w' i = perform w i := by
    rw [perform, perform, hc]
    cases hw : loadConfig w i.config
    case error => rfl
    case ok c  =>
      refine ha.runTask_eq ?_
      rw [Surroundings.colors_configured, Surroundings.colors_configured]
      exact h c <| loadConfig_eq_ok_iff.mp hw
  simp only [run, hp, h]

end Runs

-- The line of a diagnostic ends with the tag and the message, whatever the file is named, and of the line
-- only the tag is colored. So in whatever surroundings, colors show neither in the status nor in a file,
-- be it the surroundings or the configuration that asks for them. Nor do they show in what a run prints in
-- the stored form or under a configuration that is against them. Pages of help are printed without a run,
-- before any configuration is read.
theorem colors_show_in_tags :
    (∀ (d : Diagnostic) (colored : Bool),
      let e := Entry.of d
      let tag := "[" ++ e.severity.tag ++ "]"
      stripSuffix? (tag ++ " " ++ e.message).toList e.rendered.toList =
        some (d.place ++ ": ").toList ∧
      e.rendered = d.place ++ ": " ++ tag ++ " " ++ e.message ∧
      e.painted colored =
        d.place ++ ": " ++ e.severity.paint.on colored tag ++ " " ++ e.message ∧
      e.painted false = e.rendered) ∧
    (∀ (w : Surroundings) (colors : Bool) (args : List String),
      let o := run w args
      let o' := run { w with colors } args
      o'.status = o.status ∧ o'.written = o.written ∧
      ∀ i, parse args = .ok i →
        (∀ c, w.Configures i.config c → c.color = false → o' = o) ∧
        ((∀ c, w.Configures i.config c → i.task.Stores c) → o' = o)) ∧
    ∀ (w w' : Surroundings) (args : List String) (i : Invocation) (c : Config) (color : Bool),
      parse args = .ok i → w.Configures i.config c → w'.Configures i.config { c with color } →
      (w.configured i.config).Alike (w'.configured i.config) i.task →
      let o := run w args
      let o' := run w' args
      o'.status = o.status ∧ o'.written = o.written ∧
      ((w'.colors && color) = (w.colors && c.color) ∨ i.task.Stores c → o' = o) := by
  refine ⟨fun d colored => ?line, fun w colors args => ?asked,
    fun w w' args i c color hp hc hc' ha => ?configured⟩
  case line =>
    exact ⟨d.stripSuffix?_rendered, d.painted_of_false.symm.trans (d.painted_of false),
      d.painted_of colored, d.painted_of_false⟩
  case asked =>
    intro o o'
    cases hp : parse args
    case error stop =>
      have ho : o = stop.outcome w.colors := by simp only [o, run, hp]
      have ho' : o' = stop.outcome colors := by simp only [o', run, hp]
      rw [ho, ho']
      refine ⟨?status, ?written, fun _ h => by cases h⟩
      case status  => cases stop <;> rfl
      case written => cases stop <;> rfl
    case ok i =>
      have ha := Surroundings.Alike.configured_colors w colors i.config i.task
      have hl : loadConfig { w with colors } i.config =
          (loadConfig w i.config).map fun c => { c with color := c.color } := by
        have h : loadConfig { w with colors } i.config = loadConfig w i.config := rfl
        rw [h]
        cases loadConfig w i.config <;> rfl
      have hu : o'.unprinted = o.unprinted := run_unprinted hp ha hl
      refine ⟨congrArg (·.status) hu, congrArg (·.written) hu, ?_⟩
      rintro _ ⟨⟩
      refine ⟨fun c hc h => ?_, fun h => run_congr hp ha hl fun c hc => .inr (h c hc)⟩
      refine run_congr hp ha hl fun c' hc' => .inl ?_
      cases (loadConfig_eq_ok_iff.mpr hc).symm.trans (loadConfig_eq_ok_iff.mpr hc')
      simp only [h, Bool.and_false]
  case configured =>
    intro o o'
    have hw := loadConfig_eq_ok_iff.mpr hc
    have hl : loadConfig w' i.config = (loadConfig w i.config).map fun c => { c with color } := by
      rw [hw, loadConfig_eq_ok_iff.mpr hc']
      rfl
    have hu : o'.unprinted = o.unprinted := run_unprinted hp ha hl
    refine ⟨congrArg (·.status) hu, congrArg (·.written) hu, fun h => ?_⟩
    refine run_congr hp ha hl fun c' hc' => ?_
    cases hw.symm.trans (loadConfig_eq_ok_iff.mpr hc')
    exact h

-- A file is named like the end of its own line, and the color that is asked for is asked for in vain.
theorem colors_show_in_tags_alike :
    let d : Diagnostic := .make (.undefinedName "x") "[E] undefined name 'x'" ⟨1, some 0⟩
    let c (color : Bool) : Config := { color }
    let w (color : Bool) : Surroundings := {
      present      := fun _ => false
      read         := fun path =>
        if path = "config" then .ok (c color).toToml.toUTF8
        else if path = "found" then .ok (Diagnostic.listToJson [d]).compact.toUTF8
        else .error .missing
      opens        := fun _ => .ok ()
      writes       := fun _ _ => .ok ()
      leadsToInput := fun _ => false
      input        := .empty
      colors       := false
      timestamp    := "" }
    let args := ["--config", "config", "report", "found"]
    let json := ["report", "--format", "json", "found"]
    (Entry.of d).painted true = "[E] undefined name 'x':1(0): \x1b[1;31m[E]\x1b[0m undefined name 'x'" ∧
    run { w false with colors := true } args = run (w false) args ∧
    run { w false with colors := true } json = run (w false) json ∧
    (run { w true with colors := true } args).status = (run (w false) args).status ∧
    run (w true) args = run (w false) args := by
  intro d c w args json
  have hc (colors color : Bool) : { w color with colors }.Configures (some "config") (c color) :=
    ⟨_, rfl, (c color).ofToml_toToml⟩
  have ⟨hl, ha, hb⟩ := colors_show_in_tags
  have ⟨_, _, hp⟩ := ha (w false) true args
  have ⟨_, _, hj⟩ := ha (w false) true json
  let i : Invocation := ⟨some "config", .report "found" none none none⟩
  have hi (colors color : Bool) : ({ w color with colors }.configured i.config).inputBytes "found" =
      if isInput "found" then .ok .empty else .ok (Diagnostic.listToJson [d]).compact.toUTF8 := rfl
  have hw (colors : Bool) :
      ((w false).configured i.config).Alike ({ w true with colors }.configured i.config) i.task :=
    ⟨fun _ h => by cases h; exact (hi colors true).trans (hi false false).symm,
      by simp [w], by simp [w], by simp [w]⟩
  have h (colors : Bool) :=
    hb (w false) { w true with colors } args i (c false) true rfl (hc false false) (hc colors true)
      (hw colors)
  refine ⟨?line, (hp i rfl).1 (c false) (hc false false) rfl,
    (hj ⟨none, .report "found" (some .json) none none⟩ rfl).2 fun _ _ => rfl, (h true).1,
    (h false).2.2 (.inl rfl)⟩
  case line =>
    rw [(hl d true).2.2.1]
    decide +kernel

end Command

end LintReport
