import LeadScreen.Report.Flow

set_option autoImplicit false

/-! # Rows that come one at a time

A flow hands out the judged leads in their order, and its tally never runs ahead or behind: after so
many rows it counts exactly these (`take_eq`). Of a tally each count is the number of the rows with
that finding (`get_ofRows`), and the counts add up to the number of rows (`total_ofRows`).
-/

namespace LeadScreen.Report

variable {demand : Rule.TitleDemand}

/-! ## Tallies -/

namespace Tally

theorem count_cons (t : Tally) (row : Judged) (rows : List Judged) :
    t.count (row :: rows) = (t.add row.verdict.finding).count rows := rfl

/-- A count is the number of the rows with that finding, on top of what was there before. -/
theorem get_count (t : Tally) (rows : List Judged) (f : Finding) :
    (t.count rows).get f = t.get f + rows.countP fun row => decide (row.verdict.finding = f) := by
  induction rows generalizing t with
  | nil => rfl
  | cons row rows ih =>
      rw [count_cons, ih, get_add, List.countP_cons]
      by_cases h : row.verdict.finding = f
      · simp [h]
        omega
      · simp [h]

def total (t : Tally) : Nat :=
  t.valid + t.invalid + t.recheck

theorem total_add (t : Tally) (f : Finding) : (t.add f).total = t.total + 1 := by
  cases f <;> simp only [add, total] <;> omega

theorem total_count (t : Tally) (rows : List Judged) :
    (t.count rows).total = t.total + rows.length := by
  induction rows generalizing t with
  | nil => rfl
  | cons row rows ih =>
      rw [count_cons, ih, total_add, List.length_cons]
      omega

theorem get_ofRows (rows : List Judged) (f : Finding) :
    (ofRows rows).get f = rows.countP fun row => decide (row.verdict.finding = f) := by
  have hzero : ({} : Tally).get f = 0 := by cases f <;> rfl
  rw [ofRows, get_count, hzero, Nat.zero_add]

theorem total_ofRows (rows : List Judged) : (ofRows rows).total = rows.length :=
  (total_count {} rows).trans (Nat.zero_add rows.length)

end Tally

/-! ## Flows -/

namespace Flow

variable {flow : Flow}

theorem next_of_nil (h : flow.ahead.leads = []) : flow.next demand = .ended flow.ahead.error := by
  rw [next, h]

/-- **The next row**: the first lead ahead, judged, and its verdict is counted. -/
theorem next_of_cons {lead : Lead} {leads : List Lead} (h : flow.ahead.leads = lead :: leads) :
    flow.next demand
      = .row ⟨lead, Rule.judge demand lead⟩
        ⟨{ flow.ahead with leads := leads }, flow.tally.add (Rule.judge demand lead).finding⟩ := by
  rw [next, h]

/-- The rows that come when so many are asked for, as far as there are any, and what the flow is
after them. -/
def take (demand : Rule.TitleDemand) : Nat → Flow → List Judged × Flow
  | 0, flow => ([], flow)
  | k + 1, flow =>
    match flow.next demand with
    | .ended _ => ([], flow)
    | .row row rest => (row :: (take demand k rest).1, (take demand k rest).2)

/-- **After so many rows** these are the first judged leads, the others are still ahead, and the
tally has counted the ones that came. -/
theorem take_eq (k : Nat) (flow : Flow) :
    flow.take demand k
      = ((judgeAll demand flow.ahead.leads).take k,
        ⟨{ flow.ahead with leads := flow.ahead.leads.drop k },
          flow.tally.count ((judgeAll demand flow.ahead.leads).take k)⟩) := by
  induction k generalizing flow with
  | zero => rfl
  | succ k ih =>
      obtain ⟨⟨leads, error⟩, tally⟩ := flow
      cases leads with
      | nil => rfl
      | cons lead leads =>
          rw [take, next_of_cons rfl]
          dsimp only
          rw [ih]
          rfl

end Flow

end LeadScreen.Report
