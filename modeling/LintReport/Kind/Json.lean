import LintReport.Code.Json
import LintReport.Kind
import LintReport.Location.Json

namespace LintReport.Kind

open Json (Reader Record RecordField Source Chars Place orFault)

def optional (name : String) : Option String → List (String × Json)
  | none   => []
  | some s => [(name, .string s)]

def members : Kind → List (String × Json)
  | unusedImport n
  | undefinedName n
  | undefinedExport n
  | duplicateArgument n
  | unusedVariable n            => [("name", .string n)]
  | redefinedWhileUnused n l
  | importShadowedByLoopVar n l
  | undefinedLocal n l
  | redefinedFunction n l       => [("name", .string n), ("orig_loc", l.toJson)]
  | importStarUsed m            => [("modname", .string m)]
  | couldNotCompile reason line => optional "msg" reason ++ optional "line" line
  | lateFutureImport ns         => [("names", .array (ns.map .string))]

def toJson (k : Kind) : Json :=
  .object <| ("code", k.code.toJson) :: k.members

structure Slots where
  name   : Option String := none
  module : Option String := none
  origin : Option Location := none
  reason : Option (Option String) := none
  line   : Option (Option String) := none
  names  : Option (List String) := none

namespace Slots

def nameField : RecordField Slots :=
  .of "name" .string (·.name) (fun x s => { s with name := x }) false

def moduleField : RecordField Slots :=
  .of "modname" .string (·.module) (fun x s => { s with module := x }) false

def originField : RecordField Slots :=
  .of "orig_loc" Location.reader (·.origin) (fun x s => { s with origin := x }) false

def reasonField : RecordField Slots :=
  .of "msg" (.option .string) (·.reason) (fun x s => { s with reason := x }) true

def lineField : RecordField Slots :=
  .of "line" (.option .string) (·.line) (fun x s => { s with line := x }) true

def namesField : RecordField Slots :=
  .of "names" (.list .string) (·.names) (fun x s => { s with names := x }) false

end Slots

open Slots

def named (variant : String) (make : String → Kind) : Record Slots Kind where
  expected := .structVariant "DiagnosticKind" variant
  fields   := [nameField]
  build s  := (RecordField.required "name" s.name).map make

def located (variant : String) (make : String → Location → Kind) : Record Slots Kind where
  expected := .structVariant "DiagnosticKind" variant
  fields   := [nameField, originField]
  build s  := do
    let name ← RecordField.required "name" s.name
    let origin ← RecordField.required "orig_loc" s.origin
    return make name origin

def record : Code → Record Slots Kind
  | .unusedImport            => named "UnusedImport" unusedImport
  | .redefinedWhileUnused    => located "RedefinedWhileUnused" redefinedWhileUnused
  | .importShadowedByLoopVar => located "ImportShadowedByLoopVar" importShadowedByLoopVar
  | .importStarUsed          => {
    expected := .structVariant "DiagnosticKind" "ImportStarUsed"
    fields   := [moduleField]
    build s  := (RecordField.required "modname" s.module).map importStarUsed }
  | .undefinedName           => named "UndefinedName" undefinedName
  | .undefinedExport         => named "UndefinedExport" undefinedExport
  | .undefinedLocal          => located "UndefinedLocal" undefinedLocal
  | .duplicateArgument       => named "DuplicateArgument" duplicateArgument
  | .redefinedFunction       => located "RedefinedFunction" redefinedFunction
  | .couldNotCompile         => {
    expected := .structVariant "DiagnosticKind" "CouldNotCompile"
    fields   := [reasonField, lineField]
    build s  := .ok <| couldNotCompile (s.reason.getD none) (s.line.getD none) }
  | .lateFutureImport        => {
    expected := .structVariant "DiagnosticKind" "LateFutureImport"
    fields   := [namesField]
    build s  := (RecordField.required "names" s.names).map lateFutureImport }
  | .unusedVariable          => named "UnusedVariable" unusedVariable

def codes : List (String × Code) :=
  Code.catalog.map fun c => (c.name, c)

-- Reads the code, wherever it stands, and settles all other members.
def findCode (p : Place) : List (Chars × Source) → Option Code → Except Json.Error (Option Code)
  | [],           code => .ok code
  | (k, v) :: ms, code => do
    let key ← orFault k
    if String.ofList key = "code" then
      if code.isSome then
        throw <| .mismatch <| .duplicateField "code"
      else
        let c ← Reader.variant codes p v
        findCode p ms (some c)
    else
      orFault <| v.settle p.depth
      findCode p ms code

def reader : Reader Kind
  | p, .object members ending => do
    let p ← p.enter
    let code ← findCode p members none
    orFault ending.readObject
    match code with
    | none   => throw <| .mismatch <| .missingField "code"
    | some c =>
      let s ← Record.readMembers (record c).fields { p with buffered := true } members {}
      (record c).build' s
  | p, .list [] ending        => do
    let _ ← p.enter
    orFault ending.readList
    throw <| .mismatch <| .missingField "code"
  | p, .list (tag :: items) ending => do
    let p ← p.enter
    let c ← Reader.variant codes p tag
    orFault <| Source.settleItems p.depth items
    orFault ending.readList
    let r := record c
    let s ← Record.readItems r.expected r.fields.length { p with buffered := true } 0 r.fields items
      .closed {}
    r.build' s
  | p, v                      => Reader.mismatch (.tagged "DiagnosticKind") p v

end LintReport.Kind
