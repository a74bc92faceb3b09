import LintReport.Json.Record
import LintReport.Location

namespace LintReport

open Json (Reader Record RecordField)

namespace ColumnPolicy

def toJson (c : ColumnPolicy) : Json :=
  .string c.name

def reader : Reader ColumnPolicy :=
  .choice [("reported", reported), ("suppressed", suppressed)]

end ColumnPolicy

namespace Location

def toJson (l : Location) : Json :=
  .object <| ("line", .int l.line.toNat) ::
    (l.column.map fun c => ("column", Json.int c.toNat)).toList

structure Slots where
  line   : Option UInt32 := none
  column : Option (Option UInt32) := none

def record : Record Slots Location where
  expected := .struct "SourceLocation"
  fields   := [
    .of "line" .word32 (·.line) (fun x s => { s with line := x }) false,
    .of "column" (.option .word32) (·.column) (fun x s => { s with column := x }) true]
  build s  := do
    let line ← RecordField.required "line" s.line
    return { line, column := s.column.getD none }

def reader : Reader Location :=
  record.read {}

end Location

end LintReport
