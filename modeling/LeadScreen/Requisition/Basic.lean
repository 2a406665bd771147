import LeadScreen.Assoc
import LeadScreen.Text.ValueList

set_option autoImplicit false

/-!
# Requisitions

A requisition says what a lead has to be like. Its first part states terms, values of keys; its
second part, the comments, is a narrative sorted into four sections of keyed value lists.
-/

namespace LeadScreen

/-- A section of the comments. Lines before the first section header belong to `root`. -/
inductive Section where
  | root
  | titles
  | industry
  | customIndustries
deriving DecidableEq, Repr

namespace Section

def all : List Section :=
  [.root, .titles, .industry, .customIndustries]

/-- The name of a section, which is a key in normal form. -/
def name : Section → Text
  | .root => "root"
  | .titles => "titles"
  | .industry => "industry"
  | .customIndustries => "custom_industries"

def ofName? (t : Text) : Option Section :=
  all.find? fun s => decide (s.name = t)

/-- The section that a key with nothing behind it opens. -/
def ofHeader? (key : Text) : Option Section :=
  [titles, industry].find? fun s => decide (s.name = key)

theorem mem_all (s : Section) : s ∈ all := by
  cases s <;> decide

theorem name_ne_nil (s : Section) : s.name ≠ [] := by
  cases s <;> decide

/-- Only titles and industry are headers, each by its name. -/
theorem ofHeader?_eq_some_iff {key : Text} {s : Section} :
    ofHeader? key = some s ↔ (s = .titles ∨ s = .industry) ∧ key = s.name := by
  have hnames : industry.name ≠ titles.name := by decide
  unfold ofHeader?
  by_cases ht : titles.name = key
  · subst ht
    cases s <;> simp [hnames.symm, List.find?]
  · by_cases hi : industry.name = key
    · subst hi
      cases s <;> simp [hnames, hnames.symm, List.find?]
    · have hnone : [titles, industry].find? (fun s => decide (s.name = key)) = none := by
        simp [ht, hi]
      rw [hnone]
      cases s <;> simp [Ne.symm ht, Ne.symm hi]

@[simp] theorem ofName?_name (s : Section) : ofName? s.name = some s := by
  cases s <;> decide

end Section

/-- The value lists of one section, by key. -/
abbrev Bucket := Assoc Text (List Text)

/-- The sections that were opened, each with its value lists. -/
abbrev Comments := Assoc Section Bucket

namespace Comments

/-- The value lists of a section; none when the section was never opened. -/
def bucket (c : Comments) (s : Section) : Bucket :=
  (c.get? s).getD []

/-- The values under a section and a key; none when there is no such list. -/
def values (c : Comments) (s : Section) (key : Text) : List Text :=
  ((c.bucket s).get? key).getD []

/-- Opens a section, unless it is open. -/
def openSection (c : Comments) (s : Section) : Comments :=
  c.alter s fun old => old.getD []

/-- The list with the trimmed values added, without empty ones and repetitions. -/
def pushValues (items values : List Text) : List Text :=
  ((values.map Text.trim).filter fun v => !v.isEmpty).foldl pushNew items

/-- Adds values under a section and a key. No values at all leave no list. -/
def push (c : Comments) (s : Section) (key : Text) (values : List Text) : Comments :=
  if values.isEmpty then c.openSection s
  else c.alter s fun old => (old.getD []).alter key fun items => pushValues (items.getD []) values

end Comments

/-- A requisition that is read: the terms of its first part and the comments. -/
structure Requisition where
  terms : Assoc Text Text := []
  comments : Comments := []
deriving DecidableEq, Repr

end LeadScreen
