import LeadScreen.Text.Basic

set_option autoImplicit false

/-!
# Lead records

A lead is a record of thirteen texts, one for each column of a lead table. A column that a table
lacks is an empty text.
-/

namespace LeadScreen

inductive Column where
  | firstName
  | lastName
  | company
  | title
  | prooflink
  | location
  | status
  | email
  | employees
  | employeesProoflink
  | industry
  | req
  | subStatus
deriving DecidableEq, Repr

namespace Column

/-- The columns in the order of a report. -/
def all : List Column :=
  [.firstName, .lastName, .company, .title, .prooflink, .location, .status, .email, .employees,
   .employeesProoflink, .industry, .req, .subStatus]

def name : Column → Text
  | .firstName => "first_name"
  | .lastName => "last_name"
  | .company => "company"
  | .title => "title"
  | .prooflink => "prooflink"
  | .location => "location"
  | .status => "status"
  | .email => "email"
  | .employees => "employees"
  | .employeesProoflink => "employees_prooflink"
  | .industry => "industry"
  | .req => "req"
  | .subStatus => "sub_status"

theorem mem_all (c : Column) : c ∈ all := by
  cases c <;> decide

theorem nodup_names : (all.map name).Nodup := by decide

end Column

structure Lead where
  firstName : Text := []
  lastName : Text := []
  company : Text := []
  title : Text := []
  prooflink : Text := []
  location : Text := []
  status : Text := []
  email : Text := []
  employees : Text := []
  employeesProoflink : Text := []
  industry : Text := []
  /-- The requisition that the lead answers. -/
  req : Text := []
  /-- What the lead is to be checked for. -/
  subStatus : Text := []
deriving DecidableEq, Repr

namespace Lead

def get (lead : Lead) : Column → Text
  | .firstName => lead.firstName
  | .lastName => lead.lastName
  | .company => lead.company
  | .title => lead.title
  | .prooflink => lead.prooflink
  | .location => lead.location
  | .status => lead.status
  | .email => lead.email
  | .employees => lead.employees
  | .employeesProoflink => lead.employeesProoflink
  | .industry => lead.industry
  | .req => lead.req
  | .subStatus => lead.subStatus

def ofColumns (f : Column → Text) : Lead where
  firstName := f .firstName
  lastName := f .lastName
  company := f .company
  title := f .title
  prooflink := f .prooflink
  location := f .location
  status := f .status
  email := f .email
  employees := f .employees
  employeesProoflink := f .employeesProoflink
  industry := f .industry
  req := f .req
  subStatus := f .subStatus

@[simp] theorem get_ofColumns (f : Column → Text) (c : Column) : (ofColumns f).get c = f c := by
  cases c <;> rfl

@[simp] theorem ofColumns_get (lead : Lead) : ofColumns lead.get = lead := rfl

theorem ext_get {a b : Lead} (h : ∀ c, a.get c = b.get c) : a = b := by
  rw [← ofColumns_get a, ← ofColumns_get b, funext h]

end Lead

end LeadScreen
