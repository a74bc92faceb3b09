namespace LintReport

inductive Severity
  | warning
  | error
deriving DecidableEq, Repr, Ord

namespace Severity

def name : Severity → String
  | warning => "warning"
  | error   => "error"

def tag : Severity → String
  | warning => "W"
  | error   => "E"

def maxScore : Nat := 5

def severeThreshold : Nat := 1

def isSevereScore (score : Nat) : Bool :=
  decide (severeThreshold < score)

end Severity

end LintReport
