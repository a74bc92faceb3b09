import LintReport.Diagnostic.Json
import LintReport.Report.Basic

namespace LintReport

open Json (Reader Record RecordField)

namespace Entry

def toJson (e : Entry) : Json :=
  .object [
    ("diagnostic", e.diagnostic.toJson),
    ("code", e.code.toJson),
    ("severity", e.severity.toJson),
    ("score", .int e.score),
    ("severe", .bool e.severe),
    ("message", .string e.message),
    ("rendered", .string e.rendered)]

structure Slots where
  diagnostic : Option Diagnostic := none

def record : Record Slots Entry where
  expected := .struct "RawEntry"
  fields   := [
    .of "diagnostic" Diagnostic.reader (·.diagnostic) (fun x s => { s with diagnostic := x }) false]
  build s  := (RecordField.required "diagnostic" s.diagnostic).map .of

def reader : Reader Entry :=
  record.read {}

end Entry

namespace Version

def toJson (v : Version) : Json :=
  .object [("major", .int v.major.toNat), ("minor", .int v.minor.toNat)]

structure Slots where
  major : Option UInt32 := none
  minor : Option UInt32 := none

def record : Record Slots Version where
  expected := .struct "ReportVersion"
  fields   := [
    .of "major" .word32 (·.major) (fun x s => { s with major := x }) false,
    .of "minor" .word32 (·.minor) (fun x s => { s with minor := x }) false]
  build s  := do
    let major ← RecordField.required "major" s.major
    let minor ← RecordField.required "minor" s.minor
    return { major, minor }

def reader : Reader Version :=
  record.read {}

end Version

namespace Summary

def toJson (s : Summary) : Json :=
  .object [
    ("total", .int s.total),
    ("errors", .int s.errors),
    ("warnings", .int s.warnings),
    ("severe", .int s.severe),
    ("files", .int s.files),
    ("ignored", .int s.ignored)]

structure Slots where
  total    : Option Nat := none
  errors   : Option Nat := none
  warnings : Option Nat := none
  severe   : Option Nat := none
  files    : Option Nat := none
  ignored  : Option Nat := none

def record : Record Slots Summary where
  expected := .struct "ReportSummary"
  fields   := [
    .of "total" .word64 (·.total) (fun x s => { s with total := x }) false,
    .of "errors" .word64 (·.errors) (fun x s => { s with errors := x }) false,
    .of "warnings" .word64 (·.warnings) (fun x s => { s with warnings := x }) false,
    .of "severe" .word64 (·.severe) (fun x s => { s with severe := x }) false,
    .of "files" .word64 (·.files) (fun x s => { s with files := x }) false,
    .of "ignored" .word64 (·.ignored) (fun x s => { s with ignored := x }) false]
  build s  := do
    let total ← RecordField.required "total" s.total
    let errors ← RecordField.required "errors" s.errors
    let warnings ← RecordField.required "warnings" s.warnings
    let severe ← RecordField.required "severe" s.severe
    let files ← RecordField.required "files" s.files
    let ignored ← RecordField.required "ignored" s.ignored
    return { total, errors, warnings, severe, files, ignored }

def reader : Reader Summary :=
  record.read {}

end Summary

namespace Report

def toJson (r : Report) : Json :=
  .object [
    ("version", r.version.toJson),
    ("timestamp", .string r.timestamp),
    ("summary", r.summary.toJson),
    ("entries", .array (r.entries.map (·.toJson)))]

def stored (r : Report) : String :=
  r.toJson.pretty

structure Slots where
  version   : Option Version := none
  timestamp : Option String := none
  summary   : Option Summary := none
  entries   : Option (List Entry) := none

def record : Record Slots Report where
  expected := .struct "Report"
  fields   := [
    .of "version" Version.reader (·.version) (fun x s => { s with version := x }) false,
    .of "timestamp" .string (·.timestamp) (fun x s => { s with timestamp := x }) false,
    .of "summary" Summary.reader (·.summary) (fun x s => { s with summary := x }) false,
    .of "entries" (.list Entry.reader) (·.entries) (fun x s => { s with entries := x }) false]
  build s  := do
    let version ← RecordField.required "version" s.version
    let timestamp ← RecordField.required "timestamp" s.timestamp
    let summary ← RecordField.required "summary" s.summary
    let entries ← RecordField.required "entries" s.entries
    return { version, timestamp, summary, entries }

def reader : Reader Report :=
  record.read {}

def load (text : String) : Except Json.Error Report :=
  Json.decode reader text

end Report

end LintReport
