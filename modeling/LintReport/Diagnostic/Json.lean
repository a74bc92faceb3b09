import LintReport.Diagnostic
import LintReport.Kind.Json

namespace LintReport.Diagnostic

open Json (Reader Record RecordField)

def toJson (d : Diagnostic) : Json :=
  .object [
    ("filename", .string d.filename),
    ("location", d.location.toJson),
    ("kind", d.kind.toJson)]

structure Slots where
  filename : Option String := none
  location : Option Location := none
  kind     : Option Kind := none

def record : Record Slots Diagnostic where
  expected := .struct "RawDiagnostic"
  fields   := [
    .of "filename" .string (·.filename) (fun x s => { s with filename := x }) false,
    .of "location" Location.reader (·.location) (fun x s => { s with location := x }) false,
    .of "kind" Kind.reader (·.kind) (fun x s => { s with kind := x }) false]
  build s  := do
    let filename ← RecordField.required "filename" s.filename
    let location ← RecordField.required "location" s.location
    let kind ← RecordField.required "kind" s.kind
    return make kind filename location

def reader : Reader Diagnostic :=
  record.read {}

def listToJson (ds : List Diagnostic) : Json :=
  .array (ds.map toJson)

def listReader : Reader (List Diagnostic) :=
  .list reader

end LintReport.Diagnostic
