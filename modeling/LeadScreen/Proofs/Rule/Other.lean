import LeadScreen.Proofs.Requisition.Refusal
import LeadScreen.Proofs.Rule.Answer
import LeadScreen.Proofs.Rule.Size
import LeadScreen.Rule.Other

set_option autoImplicit false

/-! # When the rule for other leads fails

The rule reads the requisition first, and it reads sizes when it comes to comparing them, behind
the checks of the company and of the address (`ComparesSizes`). At these two places it can fail,
on comments that are refused and on bounds with too many digits, and nowhere else
(`other_eq_error_iff`). Where it does not fail, it settles the matter.
-/

namespace LeadScreen.Rule

variable {terms : Assoc Text Text} {lead : Lead} {asked employees : Text}

/-- The company is there, and the address is one. -/
structure HasContact (lead : Lead) : Prop where
  company : lead.company.trim ≠ []
  address : isEmail lead.email.trim = true

/-- **The lead's size comes to be compared**: the company and the address are in order, and the
terms ask for a size. -/
structure ComparesSizes (terms : Assoc Text Text) (lead : Lead) : Prop extends HasContact lead where
  asked : isOpen (term terms "company_size") anySize = false

/-- One of the two bounds that are compared has too many digits. -/
def OversizedBounds (asked employees : Text) : Prop :=
  Oversized '+' asked ∨ OversizedBucket employees

theorem fallsShort_eq_error_iff : (∃ e, fallsShort asked employees = .error e)
    ↔ isOpen asked anySize = false ∧ OversizedBounds asked employees := by
  rw [OversizedBounds, ← readBound_eq_error_iff isMark_plus, ← bucketSize_eq_error_iff,
    ← minimumSize, fallsShort]
  cases isOpen asked anySize with
  | true => exact iff_of_false nofun nofun
  | false =>
      cases minimumSize asked with
      | error e => exact iff_of_true ⟨e, rfl⟩ ⟨rfl, Or.inl ⟨e, rfl⟩⟩
      | ok least =>
          cases bucketSize employees with
          | error e => exact iff_of_true ⟨e, rfl⟩ ⟨rfl, Or.inr ⟨e, rfl⟩⟩
          | ok actual =>
              refine iff_of_false ?_ (by simp)
              rintro ⟨e, herror⟩
              cases least <;> cases actual <;> cases herror

/-- Without a company or an address, that is the verdict. -/
theorem exists_otherVerdict_eq_invalid (terms : Assoc Text Text) (h : ¬ HasContact lead) :
    ∃ t, otherVerdict terms lead = .ok (.invalid t) ∧ ∃ c ∈ t.head?, c ≠ 'H' := by
  unfold otherVerdict
  by_cases hcompany : lead.company.trim = []
  · rw [if_pos (Text.trim_eq_nil_iff.mp hcompany)]
    exact ⟨_, rfl, 'M', rfl, by decide⟩
  · rw [if_neg (mt Text.trim_eq_nil_iff.mpr hcompany)]
    have haddress : isEmail lead.email.trim = false := by
      simpa using fun ha => h ⟨hcompany, ha⟩
    by_cases hemail : lead.email.trim = []
    · rw [if_pos (Text.trim_eq_nil_iff.mp hemail)]
      exact ⟨_, rfl, 'M', rfl, by decide⟩
    · rw [if_neg (mt Text.trim_eq_nil_iff.mpr hemail), haddress]
      exact ⟨_, rfl, 'I', rfl, by decide⟩

/-- The verdict once it is known whether the size falls short. -/
def sizedVerdict (terms : Assoc Text Text) (lead : Lead) (short : Bool) : Verdict :=
  if short then
    .invalid ("Company size does not meet requirement (".toList ++ term terms "company_size"
      ++ [')'])
  else if !industryFits (term terms "industry") lead.industry then
    .invalid "Industry does not match requirement"
  else if !regionFits (term terms "geo") lead.location then
    .invalid "Location does not match Geo requirement"
  else .valid

theorem otherVerdict_of_contact (h : HasContact lead) :
    otherVerdict terms lead
      = (fallsShort (term terms "company_size") lead.employees).map (sizedVerdict terms lead) := by
  have hemail : lead.email.trim ≠ [] := by
    intro hnil
    have haddress := h.address
    rw [hnil] at haddress
    cases haddress
  rw [otherVerdict, if_neg (mt Text.trim_eq_nil_iff.mpr h.company),
    if_neg (mt Text.trim_eq_nil_iff.mpr hemail), h.address]
  dsimp only
  cases fallsShort (term terms "company_size") lead.employees with
  | error e => rfl
  | ok short =>
      unfold sizedVerdict
      show (if short = true then _ else _) = Except.ok _
      cases short with
      | true => rfl
      | false =>
          cases industryFits (term terms "industry") lead.industry with
          | false => rfl
          | true => cases regionFits (term terms "geo") lead.location <;> rfl

theorem isSettled_sizedVerdict (terms : Assoc Text Text) (lead : Lead) (short : Bool) :
    (sizedVerdict terms lead short).IsSettled := by
  unfold sizedVerdict
  split
  · exact isSettled_invalid ⟨'C', rfl, by decide⟩
  · split
    · exact isSettled_invalid ⟨'I', rfl, by decide⟩
    · split
      · exact isSettled_invalid ⟨'L', rfl, by decide⟩
      · exact isSettled_valid

/-- **The verdict fails with the sizes**, and only with them. -/
theorem otherVerdict_eq_error_iff : (∃ e, otherVerdict terms lead = .error e)
    ↔ ComparesSizes terms lead ∧ OversizedBounds (term terms "company_size") lead.employees := by
  by_cases h : HasContact lead
  · have hmap : (∃ e, otherVerdict terms lead = .error e)
        ↔ ∃ e, fallsShort (term terms "company_size") lead.employees = .error e := by
      rw [otherVerdict_of_contact h]
      cases fallsShort (term terms "company_size") lead.employees <;> simp [Except.map]
    rw [hmap, fallsShort_eq_error_iff]
    exact ⟨fun ⟨hasked, hover⟩ => ⟨⟨h, hasked⟩, hover⟩, fun ⟨hsizes, hover⟩ => ⟨hsizes.asked, hover⟩⟩
  · obtain ⟨t, hinvalid, -⟩ := exists_otherVerdict_eq_invalid terms h
    rw [hinvalid]
    exact iff_of_false nofun fun hsizes => h hsizes.1.toHasContact

/-! ## The rule -/

theorem other_of_read {r : Requisition} (h : Requisition.read lead.req = .ok r) :
    other lead = (otherVerdict r.terms lead).mapError .size := by
  rw [other, h]

theorem other_eq_ok_iff {r : Requisition} {v : Verdict} (h : Requisition.read lead.req = .ok r) :
    other lead = .ok v ↔ otherVerdict r.terms lead = .ok v := by
  rw [other_of_read h]
  cases otherVerdict r.terms lead <;> simp [Except.mapError]

/-- **When the rule for other leads fails**: on comments that are refused, and on a bound with too
many digits where sizes are compared. -/
theorem other_eq_error_iff : (∃ failure, other lead = .error failure)
    ↔ Requisition.Refused lead.req ∨ ∃ r, Requisition.read lead.req = .ok r
      ∧ ComparesSizes r.terms lead
      ∧ OversizedBounds (term r.terms "company_size") lead.employees := by
  rw [← Requisition.exists_read_eq_error_iff, other]
  cases hread : Requisition.read lead.req with
  | error e => exact iff_of_true ⟨_, rfl⟩ (Or.inl ⟨e, rfl⟩)
  | ok r =>
      have hverdict : (∃ failure, (otherVerdict r.terms lead).mapError Failure.size = .error failure)
          ↔ ∃ e, otherVerdict r.terms lead = .error e := by
        cases otherVerdict r.terms lead <;> simp [Except.mapError]
      dsimp only
      rw [hverdict, otherVerdict_eq_error_iff]
      constructor
      · intro h
        exact Or.inr ⟨r, rfl, h⟩
      · rintro (⟨e, herror⟩ | ⟨r', hok, h⟩)
        · cases herror
        · rwa [Except.ok.inj hok]

/-- Where the rule does not fail, it settles the matter. -/
theorem isSettled_of_other {v : Verdict} (h : other lead = .ok v) : v.IsSettled := by
  unfold other at h
  split at h
  · cases h
  · rename_i r hread
    by_cases hcontact : HasContact lead
    · rw [otherVerdict_of_contact hcontact] at h
      cases hshort : fallsShort (term r.terms "company_size") lead.employees with
      | error e =>
          rw [hshort] at h
          cases h
      | ok short =>
          rw [hshort] at h
          exact Except.ok.inj h ▸ isSettled_sizedVerdict r.terms lead short
    · obtain ⟨t, hinvalid, hother⟩ := exists_otherVerdict_eq_invalid r.terms hcontact
      rw [hinvalid] at h
      exact Except.ok.inj h ▸ isSettled_invalid hother

end LeadScreen.Rule
