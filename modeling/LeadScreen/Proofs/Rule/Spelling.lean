import LeadScreen.Proofs.Rule.Fields
import LeadScreen.Proofs.Rule.Other

set_option autoImplicit false

/-! # Verdicts on leads in other spellings

The fields of a lead come in all spellings. The rules compare them in lower case and trimmed, so
that case and ends are of no account; they leave gaps as they are. So two spellings of a lead
have the same verdict where no gap is compared, which is so for addresses, sizes and demands of
single words, and they part where a status of several words, an industry or a region is written
with another gap (`verdicts_of_respelled`, `wide_gaps_change_verdicts`).
-/

namespace LeadScreen

open Text

variable {related related' : Text → Text → Prop} {lead lead' : Lead} {a b : Text}
  {terms : Assoc Text Text}

namespace Lead

/-! ## Spellings of a lead -/

/-- The columns that a person fills in, and that rules compare. -/
def spelledColumns : List Column :=
  [.status, .company, .email, .employees, .industry, .location]

/-- **Two leads answer one requisition, and their columns are related.** -/
structure Varies (related : Text → Text → Prop) (lead lead' : Lead) : Prop where
  req : lead'.req = lead.req
  column : ∀ c ∈ spelledColumns, related (lead.get c) (lead'.get c)

/-- **The canonical form of a lead**, column by column. -/
def canonical (lead : Lead) : Lead :=
  ofColumns fun c => if c ∈ spelledColumns then Text.canonical (lead.get c) else lead.get c

abbrev Alike : Lead → Lead → Prop := Varies fun a b => Text.canonical a = Text.canonical b

theorem Varies.mono (h : Varies related lead lead') (hrelated : ∀ a b, related a b → related' a b) :
    Varies related' lead lead' where
  req := h.req
  column := fun c hc => hrelated _ _ (h.column c hc)

theorem alike_of_respelled (h : Varies Respelled lead lead') : Alike lead lead' :=
  h.mono fun _ _ => canonical_eq_of_respelled

theorem alike_canonical (lead : Lead) : Alike lead lead.canonical where
  req := rfl
  column := fun c hc => by
    rw [canonical, get_ofColumns, if_pos hc, canonical_canonical]

end Lead

namespace Rule

open Lead

/-! ## The status rule -/

/-- The statuses that settle the matter have no gaps. -/
theorem lookup_settledStatuses_of_gap {status : Text} (h : ¬ Solid status) :
    settledStatuses.lookup status = none := by
  have hsettled : ∀ entry ∈ settledStatuses, Solid entry.1 := by decide
  refine List.lookup_eq_none_iff.mpr fun entry hentry => ?_
  rw [bne_iff_ne]
  rintro rfl
  exact h (hsettled entry hentry)

/-- Those that call for another look are in canonical form. -/
theorem canonical_of_mem_openStatuses {t : Text} (h : compared t ∈ openStatuses) :
    canonical t = compared t := by
  have hopen : ∀ s ∈ openStatuses, canonical s = s := by decide +kernel
  rw [← hopen _ h, compared, canonical_lower, canonical_trim]

/-- **A status of several words is known in one spelling only.** -/
theorem statusVerdict_eq_iff (h : canonical a = canonical b) :
    statusVerdict (compared b) = statusVerdict (compared a)
      ↔ (compared a ∈ openStatuses ↔ compared b ∈ openStatuses) := by
  constructor
  · intro hverdict
    rw [← finding_statusVerdict, ← finding_statusVerdict, hverdict]
  · intro hopen
    by_cases hsame : compared b = compared a
    · rw [hsame]
    · -- both have gaps, and different ones, so that neither is known
      have hgap : ¬ Solid (compared a) := mt (lower_trim_eq_of_canonical_eq h) hsame
      have hgap' : ¬ Solid (compared b) :=
        mt (lower_trim_eq_of_canonical_eq h.symm) (Ne.symm hsame)
      have hclosed : compared a ∉ openStatuses := by
        intro ha
        have hb := canonical_of_mem_openStatuses (hopen.mp ha)
        rw [← h, canonical_of_mem_openStatuses ha] at hb
        exact hsame hb.symm
      have hclosed' : compared b ∉ openStatuses := fun hb => hclosed (hopen.mpr hb)
      rw [statusVerdict, statusVerdict, lookup_settledStatuses_of_gap hgap,
        lookup_settledStatuses_of_gap hgap']
      dsimp only
      rw [if_neg (by simpa using hclosed'), if_neg (by simpa using hclosed)]

/-! ## The rule for other leads -/

theorem hasContact_congr (h : Alike lead lead') (hcontact : HasContact lead) : HasContact lead' where
  company := by
    have hsame : canonical lead.company = canonical lead'.company :=
      h.column .company (by decide)
    rw [Ne, ← canonical_eq_nil_iff, ← hsame, canonical_eq_nil_iff]
    exact hcontact.company
  address := (isEmail_trim_congr (h.column .email (by decide))).symm.trans hcontact.address

theorem fallsShort_eq_of_canonical_eq (asked : Text) (h : canonical a = canonical b) :
    fallsShort asked a = fallsShort asked b := by
  rw [fallsShort, fallsShort, bucketSize_congr h]

/-- What is missing is missing in all spellings. -/
theorem otherVerdict_congr_of_not_contact (terms : Assoc Text Text) (h : Alike lead lead')
    (hnot : ¬ HasContact lead) : otherVerdict terms lead' = otherVerdict terms lead := by
  have hcompany : lead.company.allBlank = lead'.company.allBlank :=
    allBlank_congr (h.column .company (by decide))
  have hemail : lead.email.allBlank = lead'.email.allBlank :=
    allBlank_congr (h.column .email (by decide))
  have haddress : isEmail lead.email.trim = isEmail lead'.email.trim :=
    isEmail_trim_congr (h.column .email (by decide))
  rw [otherVerdict, otherVerdict, ← hcompany, ← hemail, ← haddress]
  by_cases hblank : lead.company.allBlank = true
  · rw [if_pos hblank, if_pos hblank]
  · rw [if_neg hblank, if_neg hblank]
    have hno : isEmail lead.email.trim = false := by
      rw [← Bool.not_eq_true]
      exact fun hyes => hnot ⟨mt trim_eq_nil_iff.mp hblank, hyes⟩
    rw [hno, Bool.not_false, if_pos rfl, if_pos rfl]

/-- Once the size is known, the verdict tells whether the industry fits, and where it does, whether
the region does. -/
theorem sizedVerdict_eq_iff (terms : Assoc Text Text) (lead lead' : Lead) :
    sizedVerdict terms lead' false = sizedVerdict terms lead false
      ↔ industryFits (term terms "industry") lead'.industry
          = industryFits (term terms "industry") lead.industry
        ∧ (industryFits (term terms "industry") lead.industry = true →
          regionFits (term terms "geo") lead'.location
            = regionFits (term terms "geo") lead.location) := by
  rw [sizedVerdict, sizedVerdict, if_neg Bool.false_ne_true, if_neg Bool.false_ne_true]
  cases industryFits (term terms "industry") lead.industry <;>
    cases industryFits (term terms "industry") lead'.industry <;>
      cases regionFits (term terms "geo") lead.location <;>
        cases regionFits (term terms "geo") lead'.location <;> decide

/-- The verdicts on two spellings of a lead are the same exactly if the texts that are searched for
demands are found to fit alike, where it comes to that. -/
theorem otherVerdict_eq_iff (terms : Assoc Text Text) (h : Alike lead lead') :
    otherVerdict terms lead' = otherVerdict terms lead
      ↔ (HasContact lead → fallsShort (term terms "company_size") lead.employees = .ok false →
        industryFits (term terms "industry") lead'.industry
            = industryFits (term terms "industry") lead.industry
          ∧ (industryFits (term terms "industry") lead.industry = true →
            regionFits (term terms "geo") lead'.location
              = regionFits (term terms "geo") lead.location)) := by
  by_cases hcontact : HasContact lead
  · have hsize : fallsShort (term terms "company_size") lead'.employees
        = fallsShort (term terms "company_size") lead.employees :=
      (fallsShort_eq_of_canonical_eq _ (h.column .employees (by decide))).symm
    rw [otherVerdict_of_contact hcontact, otherVerdict_of_contact (hasContact_congr h hcontact),
      hsize]
    cases fallsShort (term terms "company_size") lead.employees with
    | error e => exact iff_of_true rfl fun _ hshort => by cases hshort
    | ok short =>
        cases short with
        | true => exact iff_of_true rfl fun _ hshort => by cases hshort
        | false =>
            rw [← sizedVerdict_eq_iff]
            constructor
            · intro hverdict _ _
              exact Except.ok.inj hverdict
            · intro hverdict
              exact congrArg Except.ok (hverdict hcontact rfl)
  · exact iff_of_true (otherVerdict_congr_of_not_contact terms h hcontact)
      fun hyes => absurd hyes hcontact

theorem other_eq_iff (h : Alike lead lead') : other lead' = other lead
    ↔ ∀ r, Requisition.read lead.req = .ok r → HasContact lead →
      fallsShort (term r.terms "company_size") lead.employees = .ok false →
      industryFits (term r.terms "industry") lead'.industry
          = industryFits (term r.terms "industry") lead.industry
        ∧ (industryFits (term r.terms "industry") lead.industry = true →
          regionFits (term r.terms "geo") lead'.location
            = regionFits (term r.terms "geo") lead.location) := by
  cases hread : Requisition.read lead.req with
  | error e =>
      refine iff_of_true ?_ nofun
      rw [other, other, h.req, hread]
  | ok r =>
      have hread' : Requisition.read lead'.req = .ok r := h.req ▸ hread
      have hinj : ∀ v v' : Except TooManyDigits Verdict,
          v.mapError Failure.size = v'.mapError Failure.size ↔ v = v' := by
        intro v v'
        cases v <;> cases v' <;> simp [Except.mapError]
      rw [other_of_read hread, other_of_read hread', hinj, otherVerdict_eq_iff r.terms h]
      constructor
      · rintro hfits _ hr
        obtain rfl := Except.ok.inj hr
        exact hfits
      · intro hfits
        exact hfits r rfl

/-! ## Both rules -/

/-- The terms ask for an industry and for regions of single words. -/
structure AsksForWords (terms : Assoc Text Text) : Prop where
  industry : Solid (compared (term terms "industry"))
  regions : ∀ region ∈ regions (term terms "geo"), Solid region

/-- **When two spellings of a lead have the same verdicts.** Let the columns of a lead be written in
another case, with other blanks around them and with other gaps, or let the lead be brought into its
canonical form. Then the status rule says the same exactly if the status is one of those that call
for another look in both spellings or in neither, and the rule for other leads exactly if, with
company, address and size in order, the industry is found to fit alike, and if it fits, the region.
Both rules say the same if only case and ends differ; the status rule does so for a status
without gaps, and the other rule for terms that ask for single words. -/
theorem verdicts_of_respelled (h : Varies Respelled lead lead' ∨ lead' = lead.canonical) :
    (status lead' = status lead
        ↔ (compared lead.status ∈ openStatuses ↔ compared lead'.status ∈ openStatuses))
      ∧ (other lead' = other lead
        ↔ ∀ r, Requisition.read lead.req = .ok r → HasContact lead →
          fallsShort (term r.terms "company_size") lead.employees = .ok false →
          industryFits (term r.terms "industry") lead'.industry
              = industryFits (term r.terms "industry") lead.industry
            ∧ (industryFits (term r.terms "industry") lead.industry = true →
              regionFits (term r.terms "geo") lead'.location
                = regionFits (term r.terms "geo") lead.location))
      ∧ (Varies Recased lead lead' → status lead' = status lead ∧ other lead' = other lead)
      ∧ (Solid (compared lead.status) → status lead' = status lead)
      ∧ ((∀ r, Requisition.read lead.req = .ok r → AsksForWords r.terms) →
        other lead' = other lead) := by
  have halike : Alike lead lead' := by
    rcases h with h | rfl
    · exact alike_of_respelled h
    · exact alike_canonical lead
  have hstatus : canonical lead.status = canonical lead'.status :=
    halike.column .status (by decide)
  have hindustry : canonical lead.industry = canonical lead'.industry :=
    halike.column .industry (by decide)
  have hlocation : canonical lead.location = canonical lead'.location :=
    halike.column .location (by decide)
  refine ⟨statusVerdict_eq_iff hstatus, other_eq_iff halike, ?_, ?_, ?_⟩
  · intro hrecased
    have hcompared : ∀ c ∈ spelledColumns, compared (lead'.get c) = compared (lead.get c) :=
      fun c hc => (lower_trim_eq_of_recased (hrecased.column c hc)).symm
    have hstatus' : compared lead'.status = compared lead.status := hcompared .status (by decide)
    have hindustry' : compared lead'.industry = compared lead.industry :=
      hcompared .industry (by decide)
    have hlocation' : compared lead'.location = compared lead.location :=
      hcompared .location (by decide)
    constructor
    · exact congrArg statusVerdict hstatus'
    · refine (other_eq_iff halike).mpr fun r _ _ _ => ⟨?_, fun _ => ?_⟩
      · rw [industryFits, industryFits, hindustry']
      · rw [regionFits, regionFits, hlocation']
  · intro hsolid
    exact congrArg statusVerdict (lower_trim_eq_of_canonical_eq hstatus hsolid)
  · intro hwords
    refine (other_eq_iff halike).mpr fun r hread _ _ => ⟨?_, fun _ => ?_⟩
    · exact (industryFits_congr (hwords r hread).industry hindustry).symm
    · exact (regionFits_congr (hwords r hread).regions hlocation).symm

/-- A lead with single spaces, and none at the ends. -/
def tidyLead (status req : Text) : Lead where
  status := status
  company := "Acme Corp"
  email := "jane@acme.com"
  employees := "1,000 - 5,000"
  industry := "Human Resources"
  location := "New York"
  req := req

/-- The same lead with double spaces, with a space before the address and with capital letters in
it. -/
def scruffyLead (status req : Text) : Lead where
  status := status
  company := "Acme  Corp"
  email := " JANE@acme.com"
  employees := "1,000  - 5,000"
  industry := "Human  Resources"
  location := "New  York"
  req := req

/-- A space may be doubled. -/
theorem respelled_of_space (a b : Text) :
    Respelled (a ++ " ".toList ++ b) (a ++ "  ".toList ++ b) :=
  .rel _ _ (.gap (blank_of_allBlank (by decide)) (blank_of_allBlank (by decide)) (by decide)
    (by decide))

theorem respelled_scruffyLead {s s' : Text} (h : Respelled s s') (req : Text) :
    Varies Respelled (tidyLead s req) (scruffyLead s' req) where
  req := rfl
  column := by
    have hemail : Respelled "jane@acme.com" " JANE@acme.com" := by
      have hletters : Recasing "jane@acme.com" "JANE@acme.com" := .letters (by decide)
      have hends : Recasing "JANE@acme.com" (" ".toList ++ "JANE@acme.com".toList ++ []) :=
        .ends (blank_of_allBlank (by decide)) nofun
      exact .trans _ _ _ (.rel _ _ (.recasing hletters)) (.rel _ _ (.recasing hends))
    intro c hc
    simp only [spelledColumns, List.mem_cons, List.not_mem_nil, or_false] at hc
    rcases hc with rfl | rfl | rfl | rfl | rfl | rfl
    · exact h
    · exact respelled_of_space "Acme" "Corp"
    · exact hemail
    · exact respelled_of_space "1,000" "- 5,000"
    · exact respelled_of_space "Human" "Resources"
    · exact respelled_of_space "New" "York"

def wordsReq : Text := "Company Size: 500+ | Industry: Resources | Geo: Texas, York"

theorem verdicts_of_respelled_scruffyLead :
    Varies Respelled (tidyLead "r" wordsReq) (scruffyLead "r" wordsReq)
      ∧ status (scruffyLead "r" wordsReq) = .recheck "status is r"
      ∧ other (scruffyLead "r" wordsReq) = .ok .valid := by
  have hread : Requisition.read wordsReq
      = .ok ⟨[("company_size", "500+"), ("industry", "Resources"), ("geo", "Texas, York")], []⟩ := by
    decide +kernel
  have hwords : ∀ r, Requisition.read wordsReq = .ok r → AsksForWords r.terms := by
    intro r hr
    rw [hread] at hr
    obtain rfl := Except.ok.inj hr
    exact ⟨by decide +kernel, by decide +kernel⟩
  have hvaries := respelled_scruffyLead (.refl "r".toList) wordsReq
  have hverdicts := verdicts_of_respelled (Or.inl hvaries)
  refine ⟨hvaries, ?_, ?_⟩
  · exact (hverdicts.2.2.2.1 (by decide +kernel)).trans (by decide +kernel)
  · exact (hverdicts.2.2.2.2 hwords).trans (by decide +kernel)

/-- **A double space makes another verdict**: of a status, and of an industry or a location that is
asked for. -/
theorem wide_gaps_change_verdicts :
    Varies Respelled (tidyLead "no info" "Industry: Human Resources")
          (scruffyLead "no  info" "Industry: Human Resources")
      ∧ status (tidyLead "no info" "Industry: Human Resources") = .recheck "status is no info"
      ∧ status (scruffyLead "no  info" "Industry: Human Resources")
        = .invalid "line is corrupted"
      ∧ other (tidyLead "no info" "Industry: Human Resources") = .ok .valid
      ∧ other (scruffyLead "no  info" "Industry: Human Resources")
        = .ok (.invalid "Industry does not match requirement")
      ∧ Varies Respelled (tidyLead "r" "Geo: New York") (scruffyLead "r" "Geo: New York")
      ∧ other (tidyLead "r" "Geo: New York") = .ok .valid
      ∧ other (scruffyLead "r" "Geo: New York")
        = .ok (.invalid "Location does not match Geo requirement") :=
  ⟨respelled_scruffyLead (respelled_of_space "no" "info") _, by decide +kernel, by decide +kernel,
    by decide +kernel, by decide +kernel, respelled_scruffyLead (.refl "r".toList) _,
    by decide +kernel, by decide +kernel⟩

end Rule

end LeadScreen
