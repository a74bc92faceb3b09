namespace LintReport

inductive FailPolicy
  | never
  | error
  | severe
  | any
deriving DecidableEq, Repr

def FailPolicy.options : List (String × FailPolicy) :=
  [("never", never), ("error", error), ("severe", severe), ("any", any)]

def FailPolicy.name : FailPolicy → String
  | never  => "never"
  | error  => "error"
  | severe => "severe"
  | any    => "any"

end LintReport
