import LintReport.Code
import LintReport.Json.Reader

namespace LintReport

open Json (Reader)

namespace Severity

def toJson (s : Severity) : Json :=
  .string s.name

def reader : Reader Severity :=
  .choice [("warning", warning), ("error", error)]

end Severity

namespace Code

def toJson (c : Code) : Json :=
  .string c.name

def reader : Reader Code :=
  .choice options

end Code

end LintReport
