import LintReport.Message
import LintReport.Proofs.Text.Decimal
import LintReport.Proofs.Text.Quoted
import Mathlib.Data.UInt

namespace LintReport

inductive Slot
  | char (c : Char)
  | name
  | line
  | text
  | names
deriving DecidableEq

namespace Slot

def isChar : Slot → Bool
  | char _ => true
  | _      => false

-- Whether templates have no text in common: where they first differ, the one goes on with another
-- character than the other. No character but a quote can be taken for the start of a name. Where neither
-- can be told, they are not said to be apart.
def apart : List Slot → List Slot → Bool
  | char c :: ss, char d :: tt => c != d || apart ss tt
  | name :: ss,   name :: tt   => apart ss tt
  | char c :: _,  name :: _
  | name :: _,    char c :: _  => !decide (Text.Quoted.IsQuote c)
  | [],           char _ :: _
  | char _ :: _,  []           => true
  | _,            _            => false

def endApart (ss tt : List Slot) : Bool :=
  match ss.getLast?, tt.getLast? with
  | some (char c), some (char d) => c != d
  | _,             _             => false

-- Whether it is clear where each argument ends: no digit follows a line, and no argument follows a text.
def delimited : List Slot → Bool
  | []                    => true
  | line :: char c :: ss  => !c.isDigit && delimited ss
  | line :: []            => true
  | line :: _             => false
  | text :: ss            => ss.all isChar
  | _ :: ss               => delimited ss

end Slot

namespace Argument

def slot : Argument → Slot
  | name _  => .name
  | line _  => .line
  | text _  => .text
  | names _ => .names

theorem slot_ne_char (a : Argument) (c : Char) : a.slot ≠ .char c := by
  cases a <;> exact nofun

theorem toList_shown_name (n : String) : (name n).shown.toList = Text.Quoted.encode n.toList :=
  String.toList_ofList

theorem toList_shown_line (n : UInt32) : (line n).shown.toList = Nat.toDigits 10 n.toNat := by
  rw [shown, Nat.toString_eq_ofList_toDigits, String.toList_ofList]

theorem toList_shown_names (ns : List String) :
    (names ns).shown.toList = Text.Quoted.encodeList (ns.map String.toList) :=
  String.toList_ofList

-- A quoted name is read back as it is up to where it ends, whatever follows, and so is a list of names.
-- Their commas, brackets, quotes and escapes are never taken for those around them.
theorem quoted_reads_back (rest : String) :
    (∀ n : String,
      Text.Quoted.read (Text.quote n ++ rest).toList = some (n.toList, rest.toList)) ∧
    ∀ ns : List String,
      Text.Quoted.readList ((names ns).shown ++ rest).toList =
        some (ns.map String.toList, rest.toList) := by
  refine ⟨fun n => ?name, fun ns => ?names⟩
  case name =>
    have hn : (Text.quote n).toList = _ := toList_shown_name n
    rw [String.toList_append, hn, Text.Quoted.read_encode]
  case names =>
    rw [String.toList_append, toList_shown_names, Text.Quoted.readList_encodeList]

variable {s t : List Char}

theorem name_append_inj {m n : String}
    (h : (name m).shown.toList ++ s = (name n).shown.toList ++ t) : m = n ∧ s = t := by
  rw [toList_shown_name, toList_shown_name] at h
  exact (Text.Quoted.encode_append_inj h).imp_left String.toList_inj.mp

theorem names_append_inj {ms ns : List String}
    (h : (names ms).shown.toList ++ s = (names ns).shown.toList ++ t) : ms = ns ∧ s = t := by
  rw [toList_shown_names, toList_shown_names] at h
  refine (Text.Quoted.encodeList_append_inj h).imp_left fun h => ?_
  exact List.map_injective_iff.mpr (fun _ _ => String.toList_inj.mp) h

theorem line_append_inj {m n : UInt32} (hs : Text.NoDigit s) (ht : Text.NoDigit t)
    (h : (line m).shown.toList ++ s = (line n).shown.toList ++ t) : m = n ∧ s = t := by
  rw [toList_shown_line, toList_shown_line] at h
  exact (hs.toDigits_append_inj ht h).imp_left UInt32.toNat_inj.mp

theorem apart_char_slot {c : Char} {a : Argument} (h : c :: s = a.shown.toList ++ t)
    (ss tt : List Slot) :
    Slot.apart (.char c :: ss) (a.slot :: tt) = false ∧
    Slot.apart (a.slot :: ss) (.char c :: tt) = false := by
  cases a
  case name n =>
    rw [toList_shown_name] at h
    simp [slot, Slot.apart, Text.Quoted.isQuote_of_cons_eq h]
  all_goals exact ⟨rfl, rfl⟩

end Argument

namespace Template

def outline : List (List Char) → List Slot → List Slot
  | p :: ps, a :: as => p.map .char ++ a :: outline ps as
  | ps,      _       => ps.flatten.map .char

inductive Fills : List Slot → List Argument → List Char → Prop
  | nil : Fills [] [] []
  | char {ss : List Slot} {as : List Argument} {s : List Char} (c : Char) (h : Fills ss as s) :
    Fills (.char c :: ss) as (c :: s)
  | arg {k : Slot} {ss : List Slot} {as : List Argument} {s : List Char} (a : Argument)
    (hk : a.slot = k) (h : Fills ss as s) : Fills (k :: ss) (a :: as) (a.shown.toList ++ s)

namespace Fills

variable {ss tt : List Slot} {as bs : List Argument} {s t : List Char}

theorem chars (p : List Char) (h : Fills ss as s) : Fills (p.map .char ++ ss) as (p ++ s) := by
  induction p
  case nil         => exact h
  case cons c p ih => exact .char c ih

theorem fill (ps : List (List Char)) (as : List Argument) (h : as.length < ps.length) :
    Fills (outline ps (as.map (·.slot))) as (Template.fill ps (as.map (·.shown.toList))) := by
  induction ps generalizing as
  case nil => cases h
  case cons p ps ih =>
    cases as
    case nil       => simpa [outline, Template.fill] using chars (p ++ ps.flatten) .nil
    case cons a as =>
      simpa [outline, Template.fill] using chars p <| .arg a rfl <| ih as (Nat.lt_of_succ_lt_succ h)

theorem getLast? {c : Char} (h : Fills ss as s) (hc : ss.getLast? = some (.char c)) :
    s.getLast? = some c := by
  induction h
  case nil => cases hc
  case char ss as s d h ih =>
    cases hl : ss.getLast?
    case none =>
      obtain rfl := List.getLast?_eq_none_iff.mp hl
      cases h
      cases hc
      rfl
    case some k => simp_all [List.getLast?_cons]
  case arg k ss as s a hk h ih =>
    cases hl : ss.getLast?
    case none =>
      obtain rfl := List.getLast?_eq_none_iff.mp hl
      cases hc
      cases a <;> cases hk
    case some k => simp_all [List.getLast?_cons]

theorem not_endApart (hs : Fills ss as s) (ht : Fills tt bs s) : Slot.endApart ss tt = false := by
  unfold Slot.endApart
  split
  case h_1 c d hc hd =>
    have he := (hs.getLast? hc).symm.trans (ht.getLast? hd)
    simpa using he
  case h_2 => rfl

theorem not_apart (hs : Fills ss as s) (ht : Fills tt bs t) (h : s = t) :
    Slot.apart ss tt = false := by
  induction hs generalizing tt bs t
  case nil =>
    cases ht
    case nil        => rfl
    case char       => cases h
    case arg b hk _ => cases b <;> cases hk <;> rfl
  case char c _ ih =>
    cases ht
    case nil        => cases h
    case char d ht  =>
      have ⟨hc, h⟩ := List.cons.inj h
      simp [Slot.apart, hc, ih ht h]
    case arg b hk _ => exact hk ▸ (Argument.apart_char_slot h ..).left
  case arg a hk _ ih =>
    cases ht
    case nil          => cases a <;> cases hk <;> rfl
    case char d _     => exact hk ▸ (Argument.apart_char_slot h.symm ..).right
    case arg b hk' ht =>
      subst hk hk'
      cases a <;> cases b
      case name.name m n => exact ih ht (Argument.name_append_inj h).right
      all_goals rfl

theorem noDigit (hs : Fills ss as s) (hd : Slot.delimited (.line :: ss)) :
    Text.NoDigit s ∧ Slot.delimited ss := by
  cases hs
  case nil        => exact ⟨nofun, rfl⟩
  case arg a hk _ => subst hk; cases a <;> cases hd
  case char c hs  =>
    simp only [Slot.delimited, Bool.and_eq_true, Bool.not_eq_true'] at hd
    exact ⟨fun _ hc => Option.some.inj hc ▸ hd.left, hd.right⟩

theorem eq_of_all_isChar (hc : ss.all Slot.isChar) (hs : Fills ss as s) (ht : Fills ss bs t) :
    as = bs ∧ s = t := by
  induction hs generalizing bs t
  case nil => cases ht; exact ⟨rfl, rfl⟩
  case char c _ ih =>
    cases ht
    case char ht    => exact (ih hc ht).imp_right <| congrArg _
    case arg b hk _ => exact absurd hk <| b.slot_ne_char c
  case arg a hk _ _ => cases a <;> cases hk <;> cases hc

theorem arguments_eq (hd : Slot.delimited ss) (hs : Fills ss as s) (ht : Fills ss bs t)
    (h : s = t) : as = bs := by
  induction hs generalizing bs t
  case nil => cases ht; rfl
  case char c _ ih =>
    cases ht
    case char ht    => exact ih hd ht (List.cons.inj h).right
    case arg b hk _ => exact absurd hk <| b.slot_ne_char c
  case arg a hk hs ih =>
    cases ht
    case char c _      => exact absurd hk <| a.slot_ne_char c
    case arg b hk' ht  =>
      subst hk
      cases a <;> cases b <;> cases hk'
      case name.name.refl m n =>
        have ⟨hn, hs⟩ := Argument.name_append_inj h
        rw [hn, ih hd ht hs]
      case line.line.refl m n =>
        have ⟨hns, hds⟩ := hs.noDigit hd
        have ⟨hnt, _⟩ := ht.noDigit hd
        have ⟨hn, hs⟩ := Argument.line_append_inj hns hnt h
        rw [hn, ih hds ht hs]
      case text.text.refl m n =>
        have ⟨ha, hst⟩ := eq_of_all_isChar hd hs ht
        rw [hst] at h
        have hn : m = n := String.toList_inj.mp <| List.append_cancel_right h
        rw [hn, ha]
      case names.names.refl m n =>
        have ⟨hn, hs⟩ := Argument.names_append_inj h
        rw [hn, ih hd ht hs]

end Fills

end Template

end LintReport
