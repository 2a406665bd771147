import LeadScreen.Lead.Record
import LeadScreen.Lead.Verdict
import LeadScreen.Text.Blank
import LeadScreen.Text.Case

set_option autoImplicit false

/-!
# The status rule

The verdict follows from the status of the lead alone, blanks around it and case aside.
-/

namespace LeadScreen.Rule

/-- The statuses that settle the matter. -/
def settledStatuses : List (Text × Verdict) :=
  [([], .valid), ("valid", .valid), ("a", .invalid "retired lead"),
   ("!", .invalid "suspicious lead")]

/-- The statuses that call for another look. -/
def openStatuses : List Text :=
  ["r", "no info", "no company match"]

/-- The verdict on a status in lower case. -/
def statusVerdict (status : Text) : Verdict :=
  match settledStatuses.lookup status with
  | some verdict => verdict
  | none =>
    if openStatuses.elem status then .recheck ("status is ".toList ++ status)
    else .invalid "line is corrupted"

def status (lead : Lead) : Verdict :=
  statusVerdict (Text.lower lead.status.trim)

end LeadScreen.Rule
