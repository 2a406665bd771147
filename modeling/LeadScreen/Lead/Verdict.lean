import LeadScreen.Text.Basic

set_option autoImplicit false

/-!
# Verdicts

A lead is valid or invalid, or somebody has to look at it again. A comment says why.
-/

namespace LeadScreen

inductive Finding where
  | valid
  | invalid
  | recheck
deriving DecidableEq, Repr

namespace Finding

def all : List Finding :=
  [.valid, .invalid, .recheck]

def name : Finding → Text
  | .valid => "VALID"
  | .invalid => "INVALID"
  | .recheck => "RECHECK"

def ofName? (t : Text) : Option Finding :=
  all.find? fun f => decide (f.name = t)

@[simp] theorem ofName?_name (f : Finding) : ofName? f.name = some f := by
  cases f <;> decide

theorem name_inj {f g : Finding} : f.name = g.name ↔ f = g := by
  constructor
  · intro h
    have hof := congrArg ofName? h
    rwa [ofName?_name, ofName?_name, Option.some.injEq] at hof
  · rintro rfl
    rfl

end Finding

/-- A finding with the reason for it, if one is given. -/
structure Verdict where
  finding : Finding
  comment : Option Text := none
deriving DecidableEq, Repr

namespace Verdict

def valid : Verdict :=
  ⟨.valid, none⟩

def invalid (comment : Text) : Verdict :=
  ⟨.invalid, some comment⟩

def recheck (comment : Text) : Verdict :=
  ⟨.recheck, some comment⟩

end Verdict

end LeadScreen
