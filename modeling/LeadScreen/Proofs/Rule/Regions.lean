import LeadScreen.Proofs.Requisition.Marker
import LeadScreen.Proofs.Rule.Other
import LeadScreen.Proofs.Text.Lower
import LeadScreen.Proofs.Text.Words

set_option autoImplicit false

/-! # Lists of regions

The word *only* is taken out before a list of regions is split, and it is looked for in the whole
list. All the same the list splits at every separator (`regions_append_cons`): no separator is
part of the word, and a word that stands alone before a separator stands alone without it. So a
list that is widened asks for the regions it asked for and for more, and a lead that was let pass
is let pass still (`widened_regions_accept`).
-/

namespace LeadScreen.Rule

open Text Requisition

variable {a b t word region asked location : Text} {c : Char} {terms terms' : Assoc Text Text}
  {lead : Lead}

/-! ## The word *only* -/

/-- A word ends before a character that is none of its letters. -/
theorem afterWord?_append_cons (hc : ∀ letter ∈ word, matchesLetter letter c = false)
    (t b : Text) : afterWord? word (t ++ c :: b) = (afterWord? word t).map (· ++ c :: b) := by
  induction word generalizing t with
  | nil => rfl
  | cons letter word ih =>
      cases t with
      | nil =>
          show afterWord? (letter :: word) (c :: b) = none
          rw [afterWord?, hc letter List.mem_cons_self, if_neg Bool.false_ne_true]
      | cons d t =>
          rw [List.cons_append, afterWord?, afterWord?,
            ih fun letter hletter => hc letter (List.mem_cons_of_mem _ hletter)]
          split <;> rfl

theorem startsWord_append_cons (hc : isWordChar c = false) (t b : Text) :
    startsWord (t ++ c :: b) = startsWord t := by
  cases t with
  | nil => exact hc
  | cons d t => rfl

theorem length_of_afterWord? {behind : Text} (h : afterWord? word t = some behind) :
    t.length = word.length + behind.length := by
  obtain ⟨spelled, hspells, rfl⟩ := afterWord?_eq_some_iff.mp h
  rw [List.length_append, hspells.length_eq]

/-- **The word is taken out on either side of a character that is no part of words**, as if
nothing stood on the other side. -/
theorem dropOnlyFrom_append_cons (hc : isWordChar c = false)
    (hletters : ∀ letter ∈ "only".toList, matchesLetter letter c = false) (b : Text)
    (afterWord : Bool) {skip : Nat} (hskip : skip ≤ a.length) :
    dropOnlyFrom afterWord skip (a ++ c :: b)
      = dropOnlyFrom afterWord skip a ++ c :: dropOnly b := by
  induction a generalizing afterWord skip with
  | nil =>
      obtain rfl := Nat.le_zero.mp hskip
      have hnone : afterWord? "only" (c :: b) = none := afterWord?_append_cons hletters [] b
      show dropOnlyFrom afterWord 0 (c :: b) = c :: dropOnly b
      rw [dropOnlyFrom, hnone, hc]
      rfl
  | cons d a ih =>
      rw [List.length_cons] at hskip
      cases skip with
      | succ skip =>
          rw [List.cons_append, dropOnlyFrom, dropOnlyFrom, ih _ (by omega)]
      | zero =>
          have hword := afterWord?_append_cons hletters (d :: a) b
          rw [List.cons_append] at hword ⊢
          rw [dropOnlyFrom, dropOnlyFrom, hword]
          cases hbehind : afterWord? "only" (d :: a) with
          | none =>
              rw [Option.map_none]
              dsimp only
              rw [ih _ (Nat.zero_le _), List.cons_append]
          | some behind =>
              rw [Option.map_some]
              dsimp only
              rw [startsWord_append_cons hc]
              -- a word that is found ends before the character
              have hlength := length_of_afterWord? hbehind
              have hthree : 3 ≤ a.length := by
                have hfour : "only".toList.length = 4 := rfl
                rw [List.length_cons] at hlength
                omega
              rw [ih _ hthree, ih _ (Nat.zero_le _)]
              split <;> rfl

/-! ## Regions -/

/-- No separator is part of words, let alone of the word *only*. -/
theorem plain_of_separatesRegions (hc : separatesRegions c = true) :
    isWordChar c = false ∧ ∀ letter ∈ "only".toList, matchesLetter letter c = false := by
  simp only [separatesRegions, Bool.or_eq_true, beq_iff_eq] at hc
  obtain ⟨hword, hletters⟩ : isWordChar c = false
      ∧ ("only".toList.all fun letter => !matchesLetter letter c) = true := by
    rcases hc with (rfl | rfl) | rfl <;> decide +kernel
  exact ⟨hword, fun letter hletter => by simpa using List.all_eq_true.mp hletters letter hletter⟩

theorem dropOnly_append_cons (hc : separatesRegions c = true) (a b : Text) :
    dropOnly (a ++ c :: b) = dropOnly a ++ c :: dropOnly b := by
  obtain ⟨hword, hletters⟩ := plain_of_separatesRegions hc
  exact dropOnlyFrom_append_cons hword hletters b false (Nat.zero_le _)

/-- **A list of regions splits at every separator.** -/
theorem regions_append_cons (hc : separatesRegions c = true) (a b : Text) :
    regions (a ++ c :: b) = regions a ++ regions b := by
  rw [regions, dropOnly_append_cons hc, splitWhere_append_cons hc, List.map_append,
    List.filter_append, List.map_append]
  rfl

/-- **A region as it is compared**: a text without separators and without blanks at its ends, not
empty, in lower case. -/
structure IsRegion (region : Text) : Prop where
  ne_nil : region ≠ []
  trimmed : region.trim = region
  whole : ∀ c ∈ region, separatesRegions c = false
  lowered : lower region = region

/-- Separators have no case. -/
theorem caseless_separatesRegions : CaselessClass separatesRegions :=
  ((CaselessClass.of_lt (by decide)).or (CaselessClass.of_lt (by decide))).or
    (CaselessClass.of_lt (by decide))

theorem isRegion_of_mem_regions (h : region ∈ regions t) : IsRegion region := by
  obtain ⟨trimmed, htrimmed, rfl⟩ := List.mem_map.mp h
  obtain ⟨hpieces, hne⟩ := List.mem_filter.mp htrimmed
  obtain ⟨piece, hpiece, rfl⟩ := List.mem_map.mp hpieces
  have hwhole : (lower piece.trim).all (fun c => !separatesRegions c) = true := by
    rw [lower, all_lowerFrom caseless_separatesRegions.steady.not, List.all_eq_true]
    intro c hc
    rw [not_of_mem_splitWhere hpiece (mem_of_mem_trim hc), Bool.not_false]
  constructor
  · rw [Ne, lower_eq_nil_iff]
    simpa using hne
  · rw [trim_lower, trim_trim]
  · intro c hc
    simpa using List.all_eq_true.mp hwhole c hc
  · exact lower_lower piece.trim

/-! ## Wider lists -/

theorem regionFits_append_cons (hc : separatesRegions c = true)
    (hasked : isOpen a anyOrComment = false) (h : regionFits a location = true) (b : Text) :
    regionFits (a ++ c :: b) location = true := by
  rw [regionFits, hasked, Bool.false_or, Bool.or_eq_true] at h
  rw [regionFits, Bool.or_assoc, Bool.or_eq_true, Bool.or_eq_true, regions_append_cons hc,
    List.any_append, Bool.or_eq_true]
  rcases h with hnowhere | hfits
  · exact Or.inr (Or.inl hnowhere)
  · exact Or.inr (Or.inr (Or.inl hfits))

/-- **What it takes to pass**: a company and an address, a size that does not fall short, and an
industry and a region that fit. -/
theorem otherVerdict_eq_valid_iff : otherVerdict terms lead = .ok .valid
    ↔ HasContact lead ∧ fallsShort (term terms "company_size") lead.employees = .ok false
      ∧ industryFits (term terms "industry") lead.industry = true
      ∧ regionFits (term terms "geo") lead.location = true := by
  by_cases hcontact : HasContact lead
  · rw [otherVerdict_of_contact hcontact]
    cases fallsShort (term terms "company_size") lead.employees with
    | error e => exact iff_of_false nofun fun h => by cases h.2.1
    | ok short =>
        cases short with
        | true => exact iff_of_false nofun fun h => by cases h.2.1
        | false =>
            show Except.ok (sizedVerdict terms lead false) = _ ↔ _
            unfold sizedVerdict
            cases industryFits (term terms "industry") lead.industry <;>
              cases regionFits (term terms "geo") lead.location <;>
                simp [hcontact, Verdict.valid, Verdict.invalid]
  · obtain ⟨t, hinvalid, -⟩ := exists_otherVerdict_eq_invalid terms hcontact
    rw [hinvalid]
    exact iff_of_false nofun fun h => hcontact h.1

/-- A lead that passes under a list of regions passes under a wider one. -/
theorem otherVerdict_of_widened (hc : separatesRegions c = true)
    (ha : terms.get? "geo".toList = some a) (hasked : isOpen a anyOrComment = false)
    (hb : terms'.get? "geo".toList = some (a ++ c :: b))
    (hsame : ∀ key, key ≠ "geo".toList → terms'.get? key = terms.get? key)
    (h : otherVerdict terms lead = .ok .valid) : otherVerdict terms' lead = .ok .valid := by
  have hterm : ∀ key, key ≠ "geo".toList → term terms' key = term terms key := fun key hkey => by
    rw [term, hsame key hkey, term]
  have hgeo : term terms "geo" = a := by rw [term, ha, Option.getD_some]
  have hgeo' : term terms' "geo" = a ++ c :: b := by rw [term, hb, Option.getD_some]
  rw [otherVerdict_eq_valid_iff] at h ⊢
  rw [hterm _ (by decide), hterm _ (by decide), hgeo']
  rw [hgeo] at h
  exact ⟨h.1, h.2.1, h.2.2.1, regionFits_append_cons hc hasked h.2.2.2 b⟩

/-- **Widening a list of regions rejects nobody.** A list splits at every separator, and what it
splits into are regions: not empty, trimmed and free of separators. So a lead that is valid where
the terms ask for the regions of one list, and not for any region at all, is valid where they ask
for the regions of that list and of another one, all other terms being the same. -/
theorem widened_regions_accept (hc : separatesRegions c = true) (a b : Text) :
    regions (a ++ c :: b) = regions a ++ regions b
      ∧ (∀ t, ∀ region ∈ regions t, IsRegion region)
      ∧ ∀ (lead : Lead) (req : Text) (r r' : Requisition),
        Requisition.read lead.req = .ok r → Requisition.read req = .ok r' →
        r.terms.get? "geo".toList = some a → isOpen a anyOrComment = false →
        r'.terms.get? "geo".toList = some (a ++ c :: b) →
        (∀ key, key ≠ "geo".toList → r'.terms.get? key = r.terms.get? key) →
        other lead = .ok .valid → other { lead with req := req } = .ok .valid := by
  refine ⟨regions_append_cons hc a b, fun t region h => isRegion_of_mem_regions h, ?_⟩
  intro lead req r r' hread hread' ha hasked hb hsame hvalid
  have hread' : Requisition.read ({ lead with req := req } : Lead).req = .ok r' := hread'
  rw [other_eq_ok_iff hread] at hvalid
  rw [other_eq_ok_iff hread']
  -- the verdict under given terms does not look at the requisition of the lead
  exact otherVerdict_of_widened hc ha hasked hb hsame hvalid

def austinLead : Lead where
  company := "Acme"
  email := "jane@acme.com"
  location := "Austin, Texas"
  req := "Geo: Texas ONLY | Level: CTO"

theorem widened_regions_accept_of_two_states :
    separatesRegions '&' = true
      ∧ Requisition.read austinLead.req
        = .ok ⟨[("geo", "Texas ONLY"), ("level", "CTO")], []⟩
      ∧ other austinLead = .ok .valid
      ∧ other { austinLead with req := "Geo: Texas ONLY&only Nevada | Level: CTO" }
        = .ok .valid := by
  have hread : Requisition.read austinLead.req
      = .ok ⟨[("geo", "Texas ONLY"), ("level", "CTO")], []⟩ := by decide +kernel
  have hread' : Requisition.read "Geo: Texas ONLY&only Nevada | Level: CTO".toList
      = .ok ⟨[("geo", "Texas ONLY&only Nevada"), ("level", "CTO")], []⟩ := by decide +kernel
  have hvalid : other austinLead = .ok .valid := by decide +kernel
  have hsame : ∀ key, key ≠ "geo".toList →
      Assoc.get? key [("geo".toList, "Texas ONLY&only Nevada".toList), ("level", "CTO")]
        = Assoc.get? key [("geo".toList, "Texas ONLY".toList), ("level", "CTO")] :=
    fun key hkey => (if_neg hkey.symm).trans (if_neg hkey.symm).symm
  exact ⟨rfl, hread, hvalid,
    (widened_regions_accept (c := '&') rfl "Texas ONLY" "only Nevada").2.2 austinLead _ _ _
      hread hread' rfl (by decide +kernel) rfl hsame hvalid⟩

end LeadScreen.Rule
