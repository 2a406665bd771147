import LeadScreen.Lead.Record
import LeadScreen.Lead.Verdict
import LeadScreen.Text.Blank
import LeadScreen.Text.Case

set_option autoImplicit false

/-!
# The prooflink rule

The proof link has to lead to a profile page, or to hold the domain that it names behind its last
at sign. Every text holds the part behind its last at sign, so only an empty link fails.
-/

namespace LeadScreen.Rule

/-- What a link to a profile page contains. -/
def profileMarks : List Text :=
  ["linkedin.com/in/", "zoominfo.com/p/"]

/-- The part behind the last at sign; the whole link when there is none. -/
def linkDomain (link : Text) : Text :=
  (link.reverse.takeWhile (· != '@')).reverse

def prooflink (lead : Lead) : Verdict :=
  let link := Text.lower lead.prooflink.trim
  if link.isEmpty then .invalid "Prooflink is empty"
  else if profileMarks.any fun mark => Text.includes mark link then .valid
  else if Text.includes (linkDomain link) link then .valid
  else .invalid "Prooflink is not linkedin, zoom or even email domain"

end LeadScreen.Rule
