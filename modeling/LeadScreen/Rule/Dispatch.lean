import LeadScreen.Lead.SubStatus
import LeadScreen.Rule.Other
import LeadScreen.Rule.Prooflink
import LeadScreen.Rule.Status
import LeadScreen.Rule.Title

set_option autoImplicit false

/-!
# Choosing a rule

The sub-status of a lead chooses the rule that it is checked by. Whatever the rule does, there is a
verdict: an unknown sub-status, a rule that fails and a rule without an answer call for another
look.
-/

namespace LeadScreen.Rule

inductive Outcome where
  /-- A verdict. -/
  | verdict (v : Verdict)
  /-- An answer that is no verdict. -/
  | noVerdict
  /-- A failure, with what is reported of it. -/
  | failed (message : Text)
deriving DecidableEq, Repr

/-- A rule as it is applied to a lead. -/
abbrev Handler := Lead → Outcome

def Handler.ofRule (rule : Lead → Except Failure Verdict) : Handler := fun lead =>
  match rule lead with
  | .ok v => .verdict v
  | .error failure => .failed failure.message

def handlerFor (demand : TitleDemand) : SubStatus → Handler
  | .titleSummary => .ofRule (title demand)
  | .prooflink => fun lead => .verdict (prooflink lead)
  | .nwc => fun lead => .verdict (status lead)
  | .other => .ofRule other

/-- The verdict on a lead by the rules given for sub-statuses. -/
def judgeBy (handlers : SubStatus → Option Handler) (lead : Lead) : Verdict :=
  match (SubStatus.read? lead.subStatus).bind handlers with
  | none => .recheck ("Unknown sub_status: ".toList ++ lead.subStatus)
  | some handler =>
    match handler lead with
    | .verdict v => v
    | .noVerdict =>
      .recheck ("Handler returned empty result for sub_status: ".toList ++ lead.subStatus)
    | .failed message =>
      .recheck ("Handler error for sub_status: ".toList ++ lead.subStatus ++ ": ".toList
        ++ message)

def judge (demand : TitleDemand) (lead : Lead) : Verdict :=
  judgeBy (fun s => some (handlerFor demand s)) lead

end LeadScreen.Rule
