import LeadScreen.Lead.Record
import LeadScreen.Lead.Verdict
import LeadScreen.Requisition.Read
import LeadScreen.Rule.Email
import LeadScreen.Rule.Failure
import LeadScreen.Rule.Geo
import LeadScreen.Rule.Size

set_option autoImplicit false

/-!
# The rule for other leads

The company, the email address, the size, the industry and the region of a lead are checked in
this order against the terms of its requisition. The first check that fails makes the verdict. A
term that is absent, blank or a wildcard asks for nothing, and so does a size that cannot be read.
-/

namespace LeadScreen.Rule

/-- A term in the form in which it is compared: in lower case, trimmed. -/
def compared (t : Text) : Text :=
  Text.lower t.trim

/-- Whether a term asks for nothing. -/
def isOpen (term : Text) (wildcards : List Text) : Bool :=
  (compared term).isEmpty || wildcards.elem (compared term)

/-- The wildcard of sizes. -/
def anySize : List Text := ["any"]

/-- The wildcards of industries and regions. -/
def anyOrComment : List Text := ["any", "see comment"]

/-- The text of a term; empty when the requisition does not state it. -/
def term (terms : Assoc Text Text) (key : Text) : Text :=
  (terms.get? key).getD []

/-- Whether the size of a lead falls below the size that is asked for. -/
def fallsShort (asked employees : Text) : Except TooManyDigits Bool := do
  if isOpen asked anySize then return false
  let least ← minimumSize asked
  let actual ← bucketSize employees
  match least, actual with
  | some least, some actual => return decide (actual < least)
  | _, _ => return false

def industryFits (asked industry : Text) : Bool :=
  isOpen asked anyOrComment
    || (!(compared industry).isEmpty && Text.includes (compared asked) (compared industry))

/-- Whether the location of a lead contains one of the regions that are asked for. -/
def regionFits (asked location : Text) : Bool :=
  isOpen asked anyOrComment || (compared location).isEmpty
    || (regions asked).any fun region => Text.includes region (compared location)

def otherVerdict (terms : Assoc Text Text) (lead : Lead) : Except TooManyDigits Verdict :=
  if lead.company.allBlank then .ok (.invalid "Missing company")
  else if lead.email.allBlank then .ok (.invalid "Missing email")
  else if !isEmail lead.email.trim then .ok (.invalid "Invalid email format")
  else do
    let size := term terms "company_size"
    if ← fallsShort size lead.employees then
      return .invalid ("Company size does not meet requirement (".toList ++ size ++ [')'])
    else if !industryFits (term terms "industry") lead.industry then
      return .invalid "Industry does not match requirement"
    else if !regionFits (term terms "geo") lead.location then
      return .invalid "Location does not match Geo requirement"
    else return .valid

/-- The verdict of the rule for other leads. The requisition is read first. -/
def other (lead : Lead) : Except Failure Verdict :=
  match Requisition.read lead.req with
  | .error reason => .error (.comments reason)
  | .ok requisition => (otherVerdict requisition.terms lead).mapError .size

end LeadScreen.Rule
