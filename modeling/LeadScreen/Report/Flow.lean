import LeadScreen.Report.Tally
import LeadScreen.Table.Source

set_option autoImplicit false

/-!
# Judged leads as they come

The leads of a reading are judged one at a time, whenever the next row is asked for. A verdict is
counted before its row is handed out. What ends the reading shows when no row is left.
-/

namespace LeadScreen.Report

/-- Judged leads that are still to come, and the tally of those that have come. -/
structure Flow where
  /-- What is ahead of the reading. -/
  ahead : Table.Reading
  tally : Tally := {}
deriving DecidableEq, Repr

namespace Flow

inductive Next where
  | row (row : Judged) (rest : Flow)
  /-- No row is left; the reading may have ended in an error. -/
  | ended (error : Option Table.Error)
deriving DecidableEq, Repr

def next (demand : Rule.TitleDemand) (flow : Flow) : Next :=
  match flow.ahead.leads with
  | [] => .ended flow.ahead.error
  | lead :: leads =>
    let row : Judged := ⟨lead, Rule.judge demand lead⟩
    .row row ⟨{ flow.ahead with leads := leads }, flow.tally.add row.verdict.finding⟩

/-- Each row leaves one lead less ahead. -/
theorem length_ahead_of_next {demand : Rule.TitleDemand} {flow rest : Flow} {row : Judged}
    (h : flow.next demand = .row row rest) :
    rest.ahead.leads.length < flow.ahead.leads.length := by
  unfold next at h
  split at h
  · exact nomatch h
  · rename_i lead leads hleads
    obtain ⟨-, rfl⟩ := Next.row.inj h
    rw [hleads]
    exact Nat.lt_succ_self leads.length

end Flow

end LeadScreen.Report
