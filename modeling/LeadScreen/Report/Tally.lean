import LeadScreen.Rule.Dispatch

set_option autoImplicit false

/-!
# Judged leads and their tally

Every lead of a table gets one verdict, in the order of the table. A tally counts the verdicts of
each finding.
-/

namespace LeadScreen.Report

structure Judged where
  lead : Lead
  verdict : Verdict
deriving DecidableEq, Repr

def judgeAll (demand : Rule.TitleDemand) (leads : List Lead) : List Judged :=
  leads.map fun lead => ⟨lead, Rule.judge demand lead⟩

@[simp] theorem length_judgeAll (demand : Rule.TitleDemand) (leads : List Lead) :
    (judgeAll demand leads).length = leads.length := by
  simp [judgeAll]

/-- How many verdicts there are of each finding. -/
structure Tally where
  valid : Nat := 0
  invalid : Nat := 0
  recheck : Nat := 0
deriving DecidableEq, Repr

namespace Tally

def get (t : Tally) : Finding → Nat
  | .valid => t.valid
  | .invalid => t.invalid
  | .recheck => t.recheck

def add (t : Tally) : Finding → Tally
  | .valid => { t with valid := t.valid + 1 }
  | .invalid => { t with invalid := t.invalid + 1 }
  | .recheck => { t with recheck := t.recheck + 1 }

theorem get_add (t : Tally) (f g : Finding) :
    (t.add f).get g = t.get g + if f = g then 1 else 0 := by
  cases f <;> cases g <;> simp [add, get]

/-- The tally of judged leads, on top of an earlier one. -/
def count (t : Tally) (rows : List Judged) : Tally :=
  rows.foldl (fun t row => t.add row.verdict.finding) t

/-- The tallies after each of the judged leads. -/
def running (t : Tally) : List Judged → List Tally
  | [] => []
  | row :: rows => t.add row.verdict.finding :: running (t.add row.verdict.finding) rows

def ofRows (rows : List Judged) : Tally :=
  count {} rows

theorem running_eq_count_take (t : Tally) (rows : List Judged) (k : Nat) (h : k < rows.length) :
    (running t rows)[k]? = some (t.count (rows.take (k + 1))) := by
  induction rows generalizing t k with
  | nil => simp at h
  | cons row rows ih =>
    cases k with
    | zero => simp [running, count]
    | succ k =>
      have := ih (t.add row.verdict.finding) k (by simpa using h)
      simpa [running, count] using this

end Tally

end LeadScreen.Report
