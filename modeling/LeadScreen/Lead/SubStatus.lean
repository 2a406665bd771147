import LeadScreen.Text.Blank

set_option autoImplicit false

/-!
# Sub-statuses

The sub-status of a lead says which rule it is to be checked by.
-/

namespace LeadScreen

/-- What a lead can be checked for. -/
inductive SubStatus where
  | titleSummary
  | prooflink
  | nwc
  | other
deriving DecidableEq, Repr

namespace SubStatus

def all : List SubStatus :=
  [.titleSummary, .prooflink, .nwc, .other]

def text : SubStatus → Text
  | .titleSummary => "N/A: Title/PL Summary"
  | .prooflink => "N/A: Prooflink"
  | .nwc => "N1: NWC"
  | .other => "N/A: Other (auto)"

/-- The sub-status that a text states, blanks around it aside. -/
def read? (t : Text) : Option SubStatus :=
  all.find? fun s => decide (s.text = t.trim)

theorem read?_text (s : SubStatus) : read? s.text = some s := by
  cases s <;> decide +kernel

theorem read?_eq_some_iff {t : Text} {s : SubStatus} : read? t = some s ↔ t.trim = s.text := by
  constructor
  · intro h
    have := List.find?_some h
    simpa [eq_comm] using this
  · intro h
    have hs := read?_text s
    unfold read? at *
    rw [h]
    have ht : s.text.trim = s.text := by cases s <;> decide +kernel
    rwa [ht] at hs

end SubStatus

end LeadScreen
