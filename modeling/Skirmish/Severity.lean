/-!
# Severity of errors

How a host should take an error: try something else, or mend the data.
-/

namespace Skirmish

/-- How grave an error is. -/
inductive Severity where
  /-- The request fails and the battle goes on. -/
  | recoverable
  /-- The request or the data does not make sense. -/
  | validation
  deriving DecidableEq

def Severity.name : Severity → String
  | recoverable => "recoverable"
  | validation => "validation"

end Skirmish
