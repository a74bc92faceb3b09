import LintReport.Location
import LintReport.Severity
import LintReport.Text.Blank

namespace LintReport

-- The constructors stand in the order by which diagnostics at one location are sorted.
inductive Code
  | unusedImport
  | redefinedWhileUnused
  | importShadowedByLoopVar
  | importStarUsed
  | lateFutureImport
  | undefinedName
  | undefinedExport
  | undefinedLocal
  | unusedVariable
  | duplicateArgument
  | redefinedFunction
  | couldNotCompile
deriving DecidableEq, Repr

namespace Code

def sorted : List Code := [
  unusedImport, redefinedWhileUnused, importShadowedByLoopVar, importStarUsed, lateFutureImport,
  undefinedName, undefinedExport, undefinedLocal, unusedVariable, duplicateArgument,
  redefinedFunction, couldNotCompile]

def catalog : List Code := [
  unusedImport, redefinedWhileUnused, importShadowedByLoopVar, importStarUsed, undefinedName,
  undefinedExport, undefinedLocal, duplicateArgument, redefinedFunction, couldNotCompile,
  lateFutureImport, unusedVariable]

def rank : Code → Nat
  | unusedImport            => 0
  | redefinedWhileUnused    => 1
  | importShadowedByLoopVar => 2
  | importStarUsed          => 3
  | lateFutureImport        => 4
  | undefinedName           => 5
  | undefinedExport         => 6
  | undefinedLocal          => 7
  | unusedVariable          => 8
  | duplicateArgument       => 9
  | redefinedFunction       => 10
  | couldNotCompile         => 11

def order (c₁ c₂ : Code) : Ordering :=
  compare c₁.rank c₂.rank

theorem rank_injective {c₁ c₂ : Code} (h : c₁.rank = c₂.rank) : c₁ = c₂ := by
  cases c₁ <;> cases c₂ <;> first | rfl | cases h

theorem mem_catalog (c : Code) : c ∈ catalog := by
  cases c <;> decide

def name : Code → String
  | unusedImport            => "UNUSED_IMPORT"
  | redefinedWhileUnused    => "REDEFINED_WHILE_UNUSED"
  | importShadowedByLoopVar => "IMPORT_SHADOWED_BY_LOOP_VAR"
  | importStarUsed          => "IMPORT_STAR_USED"
  | lateFutureImport        => "LATE_FUTURE_IMPORT"
  | undefinedName           => "UNDEFINED_NAME"
  | undefinedExport         => "UNDEFINED_EXPORT"
  | undefinedLocal          => "UNDEFINED_LOCAL"
  | unusedVariable          => "UNUSED_VARIABLE"
  | duplicateArgument       => "DUPLICATE_ARGUMENT"
  | redefinedFunction       => "REDEFINED_FUNCTION"
  | couldNotCompile         => "COULD_NOT_COMPILE"

def options : List (String × Code) :=
  sorted.map fun c => (c.name, c)

structure Traits where
  severity : Severity
  score    : Nat
  columns  : ColumnPolicy
deriving DecidableEq, Repr

def traits : Code → Traits
  | unusedImport            => ⟨.warning, 0, .suppressed⟩
  | redefinedWhileUnused    => ⟨.warning, 1, .reported⟩
  | importShadowedByLoopVar => ⟨.warning, 2, .reported⟩
  | importStarUsed          => ⟨.warning, 0, .reported⟩
  | lateFutureImport        => ⟨.warning, 1, .reported⟩
  | unusedVariable          => ⟨.warning, 3, .reported⟩
  | redefinedFunction       => ⟨.warning, 2, .reported⟩
  | undefinedName
  | undefinedExport
  | undefinedLocal
  | duplicateArgument
  | couldNotCompile         => ⟨.error, Severity.maxScore, .reported⟩

def couldNotCompileFull : String := "could not compile: \x7b\x7d\n\x7b\x7d"
def couldNotCompileReason : String := "could not compile: \x7b\x7d"
def couldNotCompileBare : String := "could not compile"

def templates : Code → List String
  | unusedImport            => ["\x7b\x7d imported but unused"]
  | redefinedWhileUnused    => ["redefinition of unused \x7b\x7d from line \x7b\x7d"]
  | importShadowedByLoopVar => ["import \x7b\x7d from line \x7b\x7d shadowed by loop variable"]
  | importStarUsed          => ["'from \x7b\x7d import *' used; unable to detect undefined names"]
  | lateFutureImport        => ["future import(s) \x7b\x7d after other statements"]
  | undefinedName           => ["undefined name \x7b\x7d"]
  | undefinedExport         => ["undefined name \x7b\x7d in __all__"]
  | undefinedLocal          => [
    "local variable \x7b\x7d (defined in enclosing scope on line \x7b\x7d) " ++
    "referenced before assignment"]
  | unusedVariable          => ["local variable \x7b\x7d is assigned to but never used"]
  | duplicateArgument       => ["duplicate argument \x7b\x7d in function definition"]
  | redefinedFunction       => ["redefinition of function \x7b\x7d from line \x7b\x7d"]
  | couldNotCompile         => [couldNotCompileFull, couldNotCompileReason, couldNotCompileBare]

-- The code as a person may write it is brought to the form of its name: no blanks around it, capital
-- letters, underscores for hyphens.
def canonicalSpelling (s : List Char) : List Char :=
  (Text.trim s).map fun c => if c = '-' then '_' else c.toUpper

structure Unknown where
  text : String
deriving DecidableEq, Repr

def Unknown.message (e : Unknown) : String :=
  "unknown diagnostic code: " ++ e.text

def ofSpelling (s : String) : Except Unknown Code :=
  match catalog.find? (fun c => c.name.toList == canonicalSpelling s.toList) with
  | some c => .ok c
  | none   => .error ⟨s⟩

end Code

end LintReport
