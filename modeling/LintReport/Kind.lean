import LintReport.Code
import LintReport.Message

namespace LintReport

inductive Kind
  | unusedImport (name : String)
  | redefinedWhileUnused (name : String) (origin : Location)
  | importShadowedByLoopVar (name : String) (origin : Location)
  | importStarUsed (module : String)
  | undefinedName (name : String)
  | undefinedExport (name : String)
  | undefinedLocal (name : String) (origin : Location)
  | duplicateArgument (name : String)
  | redefinedFunction (name : String) (origin : Location)
  -- The file could not be compiled; the reason and the offending line may be known.
  | couldNotCompile (reason line : Option String)
  -- Features are imported after other statements; the names are in the order of the file.
  | lateFutureImport (names : List String)
  | unusedVariable (name : String)
deriving DecidableEq, Repr

namespace Kind

def code : Kind → Code
  | unusedImport ..            => .unusedImport
  | redefinedWhileUnused ..    => .redefinedWhileUnused
  | importShadowedByLoopVar .. => .importShadowedByLoopVar
  | importStarUsed ..          => .importStarUsed
  | undefinedName ..           => .undefinedName
  | undefinedExport ..         => .undefinedExport
  | undefinedLocal ..          => .undefinedLocal
  | duplicateArgument ..       => .duplicateArgument
  | redefinedFunction ..       => .redefinedFunction
  | couldNotCompile ..         => .couldNotCompile
  | lateFutureImport ..        => .lateFutureImport
  | unusedVariable ..          => .unusedVariable

def origin? : Kind → Option Location
  | redefinedWhileUnused _ l
  | importShadowedByLoopVar _ l
  | undefinedLocal _ l
  | redefinedFunction _ l => some l
  | _                     => none

-- An empty reason or line says no more than a missing one.
def normalized : Kind → Kind
  | couldNotCompile reason line => couldNotCompile (reason.filter (· ≠ "")) (line.filter (· ≠ ""))
  | k                           => k

theorem normalized_normalized (k : Kind) : k.normalized.normalized = k.normalized := by
  cases k <;> simp [normalized, Option.filter_filter]

theorem code_normalized (k : Kind) : k.normalized.code = k.code := by
  cases k <;> rfl

def template : Kind → String
  | couldNotCompile (some _) (some _) => Code.couldNotCompileFull
  | couldNotCompile (some _) none     => Code.couldNotCompileReason
  | couldNotCompile none _            => Code.couldNotCompileBare
  | k                                 => k.code.templates.headD ""

def arguments : Kind → List Argument
  | unusedImport n
  | undefinedName n
  | undefinedExport n
  | duplicateArgument n
  | unusedVariable n                    => [.name n]
  | redefinedWhileUnused n l
  | importShadowedByLoopVar n l
  | undefinedLocal n l
  | redefinedFunction n l               => [.name n, .line l.line]
  | importStarUsed m                    => [.text m]
  | lateFutureImport ns                 => [.names ns]
  | couldNotCompile (some r) (some l)   => [.text r, .text l]
  | couldNotCompile (some r) none       => [.text r]
  | couldNotCompile none _              => []

def message (k : Kind) : String :=
  String.ofList <| Template.fill (Template.pieces k.template.toList) (k.arguments.map (·.shown.toList))

end Kind

end LintReport
