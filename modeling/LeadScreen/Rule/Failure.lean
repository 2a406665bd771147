import LeadScreen.Markup.Error

set_option autoImplicit false

/-!
# Rules that fail

A rule fails, without a verdict, on a requisition whose comments are refused or on a size with too
many digits.
-/

namespace LeadScreen.Rule

inductive Failure where
  /-- The comments of the requisition are refused. -/
  | comments (reason : Markup.Error)
  /-- A company size has too many digits. -/
  | size (number : TooManyDigits)
deriving DecidableEq, Repr

namespace Failure

def message : Failure → Text
  | .comments reason => reason.message
  | .size number => number.message

end Failure

end LeadScreen.Rule
