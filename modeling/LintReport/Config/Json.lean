import LintReport.Code.Json
import LintReport.Config
import LintReport.Json.Record

namespace LintReport

open Json (Reader Record RecordField)

namespace FailPolicy

def toJson (p : FailPolicy) : Json :=
  .string p.name

def reader : Reader FailPolicy :=
  .choice options

end FailPolicy

namespace OutputFormat

def toJson (f : OutputFormat) : Json :=
  .string f.name

def reader : Reader OutputFormat :=
  .choice options

end OutputFormat

namespace Config

def toJson (c : Config) : Json :=
  .object [
    ("fail_on", c.failOn.toJson),
    ("format", c.format.toJson),
    ("ignore", .array (c.ignore.map (·.toJson))),
    ("color", .bool c.color)]

def record : Record Settings Config where
  expected := .struct "Config"
  fields   := [
    .of "fail_on" FailPolicy.reader (·.failOn) (fun x s => { s with failOn := x }) true,
    .of "format" OutputFormat.reader (·.format) (fun x s => { s with format := x }) true,
    .of "ignore" (.list Code.reader) (·.ignore) (fun x s => { s with ignore := x }) true,
    .of "color" .bool (·.color) (fun x s => { s with color := x }) true]
  build s  := .ok (ofSettings s)

def reader : Reader Config :=
  record.read {}

end Config

end LintReport
