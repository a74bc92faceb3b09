import LintReport.Diagnostic
import LintReport.Proofs.Message

namespace LintReport

namespace Code

def argumentSlots : Code → List Slot
  | unusedImport
  | undefinedName
  | undefinedExport
  | duplicateArgument
  | unusedVariable          => [.name]
  | redefinedWhileUnused
  | importShadowedByLoopVar
  | undefinedLocal
  | redefinedFunction       => [.name, .line]
  | importStarUsed          => [.text]
  | lateFutureImport        => [.names]
  | couldNotCompile         => [.text, .text]

def pieces (c : Code) : List (List Char) :=
  Template.pieces (c.templates.headD "").toList

def slots (c : Code) : List Slot :=
  Template.outline c.pieces c.argumentSlots

theorem slots_tell : ∀ c₁ ∈ catalog, ∀ c₂ ∈ catalog, c₁ ≠ .couldNotCompile → c₂ ≠ .couldNotCompile →
    if c₁ = c₂ then c₁.argumentSlots.length < c₁.pieces.length ∧ Slot.delimited c₁.slots
    else Slot.apart c₁.slots c₂.slots ∨ Slot.endApart c₁.slots c₂.slots := by
  decide +kernel

end Code

namespace Kind

-- The kind without the column of the place that it refers to.
def blurred : Kind → Kind
  | redefinedWhileUnused n l    => redefinedWhileUnused n { l with column := none }
  | importShadowedByLoopVar n l => importShadowedByLoopVar n { l with column := none }
  | undefinedLocal n l          => undefinedLocal n { l with column := none }
  | redefinedFunction n l       => redefinedFunction n { l with column := none }
  | k                           => k

def told : Code → List Argument → Option Kind
  | .unusedImport,            [.name n]          => some <| unusedImport n
  | .redefinedWhileUnused,    [.name n, .line l] => some <| redefinedWhileUnused n { line := l }
  | .importShadowedByLoopVar, [.name n, .line l] => some <| importShadowedByLoopVar n { line := l }
  | .importStarUsed,          [.text m]          => some <| importStarUsed m
  | .undefinedName,           [.name n]          => some <| undefinedName n
  | .undefinedExport,         [.name n]          => some <| undefinedExport n
  | .undefinedLocal,          [.name n, .line l] => some <| undefinedLocal n { line := l }
  | .duplicateArgument,       [.name n]          => some <| duplicateArgument n
  | .redefinedFunction,       [.name n, .line l] => some <| redefinedFunction n { line := l }
  | .lateFutureImport,        [.names ns]        => some <| lateFutureImport ns
  | .unusedVariable,          [.name n]          => some <| unusedVariable n
  | _,                        _                  => none

variable {k k₁ k₂ : Kind}

theorem told_arguments (h : k.code ≠ .couldNotCompile) :
    told k.code k.arguments = some k.blurred := by
  cases k
  case couldNotCompile => exact absurd rfl h
  all_goals rfl

theorem template_eq (h : k.code ≠ .couldNotCompile) : k.template = k.code.templates.headD "" := by
  cases k
  case couldNotCompile => exact absurd rfl h
  all_goals rfl

theorem map_slot_arguments (h : k.code ≠ .couldNotCompile) :
    k.arguments.map (·.slot) = k.code.argumentSlots := by
  cases k
  case couldNotCompile => exact absurd rfl h
  all_goals rfl

theorem fills_message (h : k.code ≠ .couldNotCompile) :
    Template.Fills k.code.slots k.arguments k.message.toList := by
  have hs := map_slot_arguments h
  have hl : k.arguments.length < k.code.pieces.length := by
    have ht := Code.slots_tell _ k.code.mem_catalog _ k.code.mem_catalog h h
    rw [if_pos rfl, ← hs, List.length_map] at ht
    exact ht.left
  rw [message, String.toList_ofList, template_eq h, Code.slots, ← hs]
  exact .fill k.code.pieces k.arguments hl

theorem eq_of_message_eq (h₁ : k₁.code ≠ .couldNotCompile) (h₂ : k₂.code ≠ .couldNotCompile)
    (h : k₁.message = k₂.message) : k₁.code = k₂.code ∧ k₁.arguments = k₂.arguments := by
  have hf₁ := fills_message h₁
  have hf₂ := fills_message h₂
  have ht := Code.slots_tell _ k₁.code.mem_catalog _ k₂.code.mem_catalog h₁ h₂
  split at ht
  case isTrue hc =>
    exact ⟨hc, hf₁.arguments_eq ht.right (hc ▸ hf₂) (congrArg _ h)⟩
  case isFalse =>
    rw [h] at hf₁
    simp [hf₁.not_apart hf₂ rfl, hf₁.not_endApart hf₂] at ht

end Kind

namespace Diagnostic

variable {d₁ d₂ : Diagnostic}

def columnText : Option UInt32 → List Char
  | none   => []
  | some c => '(' :: Nat.toDigits 10 c.toNat ++ [')']

theorem toList_rendered (d : Diagnostic) :
    d.rendered.toList =
    d.filename.toList ++ ':' :: (Nat.toDigits 10 d.location.line.toNat ++
      (columnText d.location.column ++ ':' :: ' ' :: '[' :: (d.severity.tag.toList ++
        ']' :: ' ' :: d.message.toList))) := by
  unfold rendered place
  split
  case h_1 hc => simp [hc, columnText]
  case h_2 hc => simp [hc, columnText]

theorem noDigit_columnText (c : Option UInt32) (r : List Char) :
    Text.NoDigit (columnText c ++ ':' :: r) := by
  intro x hx
  cases c
  case none   => exact Option.some.inj hx ▸ rfl
  case some c => exact Option.some.inj hx ▸ rfl

theorem columnText_append_inj {c₁ c₂ : Option UInt32} {r₁ r₂ : List Char}
    (h : columnText c₁ ++ ':' :: r₁ = columnText c₂ ++ ':' :: r₂) : c₁ = c₂ ∧ r₁ = r₂ := by
  cases c₁ <;> cases c₂
  case none.none => exact ⟨rfl, (List.cons.inj h).right⟩
  case none.some | some.none => cases (List.cons.inj h).left
  case some.some c₁ c₂ =>
    have hn (r : List Char) : Text.NoDigit (')' :: r) := fun _ hx => Option.some.inj hx ▸ rfl
    simp only [columnText, List.cons_append, List.append_assoc] at h
    have ⟨hc, hr⟩ := (hn _).toDigits_append_inj (hn _) (List.cons.inj h).right
    exact ⟨congrArg some <| UInt32.toNat_inj.mp hc, by simpa using hr⟩

theorem tag_append_inj {s₁ s₂ : Severity} {r₁ r₂ : List Char}
    (h : s₁.tag.toList ++ r₁ = s₂.tag.toList ++ r₂) : r₁ = r₂ := by
  cases s₁ <;> cases s₂ <;> exact (List.cons.inj h).right

theorem eq_of_rendered_eq (hf : d₁.filename = d₂.filename) (h : d₁.rendered = d₂.rendered) :
    d₁.location = d₂.location ∧ d₁.message = d₂.message := by
  have h := congrArg String.toList h
  rw [toList_rendered, toList_rendered, hf] at h
  have h := (List.cons.inj <| List.append_cancel_left h).right
  have ⟨hl, h⟩ := (noDigit_columnText _ _).toDigits_append_inj (noDigit_columnText _ _) h
  have ⟨hc, h⟩ := columnText_append_inj h
  have h := tag_append_inj (List.cons.inj (List.cons.inj h).right).right
  have hm := (List.cons.inj (List.cons.inj h).right).right
  exact ⟨Location.mk.injEq .. ▸ ⟨UInt32.toNat_inj.mp hl, hc⟩, String.toList_inj.mp hm⟩

-- In one file, diagnostics other than failures to compile are rendered alike only if they are the same,
-- but for the column of the place that they refer to.
theorem rendered_tells (hf : d₁.filename = d₂.filename) (h₁ : d₁.code ≠ .couldNotCompile)
    (h₂ : d₂.code ≠ .couldNotCompile) (h : d₁.rendered = d₂.rendered) :
    d₁.location = d₂.location ∧ d₁.code = d₂.code ∧ d₁.kind.arguments = d₂.kind.arguments ∧
    d₁.kind.blurred = d₂.kind.blurred := by
  have ⟨hl, hm⟩ := eq_of_rendered_eq hf h
  have ⟨hc, ha⟩ := Kind.eq_of_message_eq h₁ h₂ hm
  refine ⟨hl, hc, ha, Option.some.inj ?_⟩
  rw [← Kind.told_arguments h₁, ← Kind.told_arguments h₂, hc, ha]

-- The column of an earlier definition is in no message.
theorem rendered_tells_function :
    let d (c : UInt32) : Diagnostic := .make (.redefinedFunction "f" ⟨3, some c⟩) "a.py" ⟨7, some 0⟩
    (d 1).rendered = (d 2).rendered ∧ d 1 ≠ d 2 ∧ (d 1).kind.blurred = (d 2).kind.blurred := by
  intro d
  have h : (d 1).rendered = (d 2).rendered := rfl
  exact ⟨h, by decide, (rendered_tells rfl (by decide) (by decide) h).right.right.right⟩

end Diagnostic

end LintReport
