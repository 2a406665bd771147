import LeadScreen.Proofs.Number.Digits
import LeadScreen.Proofs.Requisition.Terms
import LeadScreen.Proofs.Rule.Other

set_option autoImplicit false

/-! # Sizes as they are written

A size is written as a number with a plus behind it, a bucket in the same way or as a range
(`StatesLeast`, `StatesBucket`). Where no digit stands before the number, the search finds it and
nothing else, whatever stands behind: the number is read as far as it goes, and a range is not taken
for a plus. So what is written is what is compared, and a lead with a company and an address fails
by its size exactly if the number that its bucket starts at is the smaller one
(`other_of_written_sizes`).
-/

namespace LeadScreen

open Text

variable {mark c : Char} {t before blanks after : Text} {n lo least : Nat} {commas : Bool}

namespace Rule

/-! ## Searching behind a text without digits -/

theorem findBound?_of_begins {written : Text} (hmark : IsMark mark) (h : Begins mark t written) :
    findBound? mark t = some written :=
  (findBound?_eq_some_iff hmark).mpr h.firstBound

/-- A text without the mark has no bound. -/
theorem findBound?_eq_none_of_not_mem (hmark : IsMark mark) (h : mark ∉ t) :
    findBound? mark t = none := by
  refine (findBound?_eq_none_iff hmark).mpr ?_
  rintro written ⟨n, ⟨-, blanks, after, -, hsplit⟩, -⟩
  refine h (List.mem_of_mem_drop (i := n) ?_)
  rw [hsplit]
  exact List.mem_append_right _ (List.mem_append_right _ List.mem_cons_self)

/-! ## Written numbers -/

theorem isWritten_rendered (commas : Bool) (n : Nat) : IsWritten (rendered commas n) where
  starts := by
    obtain ⟨c, hc, hdigit⟩ := exists_head?_rendered commas n
    exact ⟨c, hc, isDigit_of_isAsciiDigit hdigit⟩
  spelled := by
    intro c hc
    rw [isNumberChar, Bool.or_eq_true, beq_iff_eq]
    exact (mem_rendered hc).symm.imp isDigit_of_isAsciiDigit id

/-- **A written number is read as the number that it is**, if it has no more digits than can be
read. -/
theorem writtenNumber_rendered (h : (natText n).length ≤ digitLimit) :
    writtenNumber (rendered commas n) = .ok n := by
  rw [writtenNumber, filter_rendered, readDigits, if_pos h, spelledNumber_natText]

theorem not_mem_rendered (hmark : IsMark mark) : mark ∉ rendered commas n := by
  intro hmem
  have hforeign := hmark.foreign
  rw [(isWritten_rendered commas n).spelled mark hmem] at hforeign
  cases hforeign

theorem begins_rendered (commas : Bool) (n : Nat) (hblanks : ∀ c ∈ blanks, isBlank c = true)
    (after : Text) :
    Begins mark (rendered commas n ++ (blanks ++ mark :: after)) (rendered commas n) :=
  ⟨isWritten_rendered commas n, blanks, after, hblanks, rfl⟩

/-! ## Written sizes -/

/-- **A text states a lower bound**: a number and a plus, with blanks between them or not and no
digit before. -/
inductive StatesLeast (n : Nat) : Text → Prop where
  | intro {before blanks : Text} (commas : Bool) (hbefore : ∀ c ∈ before, isDigit c = false)
      (hblanks : ∀ c ∈ blanks, isBlank c = true) (after : Text) :
      StatesLeast n (before ++ (rendered commas n ++ (blanks ++ '+' :: after)))

/-- **A text states a bucket** by its lower bound, or by a range with no plus behind it. -/
inductive StatesBucket (n : Nat) : Text → Prop where
  | least {t : Text} (h : StatesLeast n t) : StatesBucket n t
  | range {before blanks after : Text} (commas commas' : Bool) (hi : Nat)
      (hbefore : ∀ c ∈ before, isDigit c = false) (hblanks : ∀ c ∈ blanks, isBlank c = true)
      (hafter : '+' ∉ after) :
      StatesBucket n
        (before ++ (rendered commas n ++ (blanks ++ '-' :: (rendered commas' hi ++ after))))

theorem StatesLeast.readBound_eq (h : StatesLeast n t) (hn : (natText n).length ≤ digitLimit) :
    readBound '+' t = .ok (some n) := by
  obtain ⟨commas, hbefore, hblanks, after⟩ := h
  rw [readBound, findBound?_append hbefore,
    findBound?_of_begins isMark_plus (begins_rendered commas n hblanks after)]
  dsimp only
  rw [writtenNumber_rendered hn]
  rfl

/-- **A stated lower bound is read.** -/
theorem StatesLeast.minimumSize_eq (h : StatesLeast n t) (hn : (natText n).length ≤ digitLimit) :
    minimumSize t = .ok (some n) :=
  h.readBound_eq hn

theorem StatesLeast.findBound?_ne_none (h : StatesLeast n t) : (findBound? '+' t).isSome = true := by
  obtain ⟨commas, hbefore, hblanks, after⟩ := h
  rw [findBound?_append hbefore,
    findBound?_of_begins isMark_plus (begins_rendered commas n hblanks after), Option.isSome_some]

/-- **A stated bucket is read by its lower bound.** -/
theorem StatesBucket.bucketSize_eq (h : StatesBucket n t) (hn : (natText n).length ≤ digitLimit) :
    bucketSize t = .ok (some n) := by
  cases h with
  | least h => rw [bucketSize, if_pos h.findBound?_ne_none, h.readBound_eq hn]
  | @range before blanks after commas commas' hi hbefore hblanks hafter =>
      -- there is no plus behind the first digit
      have hrest : '+' ∉ rendered commas n ++ (blanks ++ '-' :: (rendered commas' hi ++ after)) := by
        have hmarked : '+' ∉ '-' :: (rendered commas' hi ++ after) := by
          rw [List.mem_cons, not_or]
          exact ⟨by decide, List.not_mem_append (not_mem_rendered isMark_plus) hafter⟩
        exact List.not_mem_append (not_mem_rendered isMark_plus)
          (List.not_mem_append (not_mem_of_blank (by decide) hblanks) hmarked)
      have hplus : findBound? '+' (before ++ (rendered commas n
          ++ (blanks ++ '-' :: (rendered commas' hi ++ after)))) = none := by
        rw [findBound?_append hbefore, findBound?_eq_none_of_not_mem isMark_plus hrest]
      rw [bucketSize, hplus, Option.isSome_none, if_neg Bool.false_ne_true, readBound,
        findBound?_append hbefore,
        findBound?_of_begins isMark_minus (begins_rendered commas n hblanks _)]
      dsimp only
      rw [writtenNumber_rendered hn]
      rfl

/-! ## A requisition that asks for a size -/

/-- A requisition that asks for a size and nothing else. -/
def sizeRequest (commas : Bool) (least : Nat) : Text :=
  "Company Size: ".toList ++ (rendered commas least ++ "+".toList)

/-- A size as it is asked for: a number and a plus. -/
theorem statesLeast_rendered (commas : Bool) (n : Nat) :
    StatesLeast n (rendered commas n ++ "+".toList) :=
  @StatesLeast.intro n [] [] commas nofun nofun []

theorem range_of_mem_size (h : c ∈ rendered commas n ++ "+".toList) :
    43 ≤ c.toNat ∧ c.toNat ≤ 57 := by
  rcases List.mem_append.mp h with h | h
  · rcases mem_rendered h with rfl | hdigit
    · decide
    · simp only [isAsciiDigit, Bool.and_eq_true, decide_eq_true_eq] at hdigit
      have hzero : '0'.toNat = 48 := rfl
      have hnine : '9'.toNat = 57 := rfl
      omega
  · obtain rfl := List.mem_singleton.mp h
    decide

theorem not_mem_size {d : Char} (hd : 57 < d.toNat) : d ∉ rendered commas n ++ "+".toList :=
  fun hmem => absurd (range_of_mem_size hmem).2 (by omega)

theorem trim_size (commas : Bool) (n : Nat) :
    trim (rendered commas n ++ "+".toList) = rendered commas n ++ "+".toList := by
  have hsolid : ∀ c ∈ rendered commas n ++ "+".toList, isBlank c = false := fun c hc => by
    have hrange := range_of_mem_size hc
    exact isBlank_eq_false (by omega) (by omega)
  exact stripWhere_eq_self_iff.mpr
    ⟨fun c hc => hsolid c (List.mem_of_mem_head? hc), fun c hc => hsolid c (List.mem_of_mem_getLast? hc)⟩

/-- A size that is asked for is no wildcard. -/
theorem isOpen_size (commas : Bool) (n : Nat) :
    isOpen (rendered commas n ++ "+".toList) anySize = false := by
  have hlower : lower (rendered commas n ++ "+".toList) = rendered commas n ++ "+".toList := by
    refine lowerFrom_eq_self fun c hc => ?_
    have hrange := range_of_mem_size hc
    refine ⟨by omega, ?_⟩
    rcases toLower_cases c with hself | ⟨hcapital, -, -⟩
    · exact hself
    · omega
  have hplus : '+' ∈ rendered commas n ++ "+".toList := List.mem_append_right _ List.mem_cons_self
  have hempty : rendered commas n ++ "+".toList ≠ [] := List.ne_nil_of_mem hplus
  have hany : rendered commas n ++ "+".toList ≠ "any".toList := by
    intro heq
    rw [heq] at hplus
    exact absurd hplus (by decide)
  rw [isOpen, compared, trim_size, hlower, Bool.or_eq_false_iff]
  exact ⟨List.isEmpty_eq_false_iff.mpr hempty, by simpa [anySize] using hany⟩

theorem readTerms_sizeRequest (commas : Bool) (n : Nat) :
    Requisition.readTerms (sizeRequest commas n)
      = [("company_size".toList, rendered commas n ++ "+".toList)] := by
  have hbar : '|' ∉ sizeRequest commas n :=
    List.not_mem_append (by decide) (not_mem_size (by decide))
  have hwritten : sizeRequest commas n
      = "Company Size".toList ++ ':' :: ([' '] ++ (rendered commas n ++ "+".toList)) := by
    have hcolon : "Company Size: ".toList = "Company Size".toList ++ [':', ' '] := by decide
    exact (congrArg (· ++ (rendered commas n ++ "+".toList)) hcolon).trans
      (List.append_assoc _ _ _)
  have hterm : Requisition.term? (sizeRequest commas n)
      = some ("company_size".toList, rendered commas n ++ "+".toList) := by
    have hkey : key "Company Size" = "company_size".toList := by decide +kernel
    rw [hwritten, Requisition.term?_append_cons (by decide), hkey, trim_blank_append (blank_of_allBlank (by decide)),
      trim_size]
  rw [Requisition.readTerms_eq_ofEntries, splitOn_of_not_mem hbar, List.filterMap_cons_some hterm]
  rfl

theorem read_sizeRequest (commas : Bool) (n : Nat) :
    Requisition.read (sizeRequest commas n)
      = .ok ⟨[("company_size".toList, rendered commas n ++ "+".toList)], []⟩ := by
  have hbar : '|' ∉ sizeRequest commas n :=
    List.not_mem_append (by decide) (not_mem_size (by decide))
  rw [Requisition.read_of_markerless (Requisition.markerless_of_not_mem hbar),
    readTerms_sizeRequest]

/-! ## The gate -/

/-- What is found of a lead by a requisition that asks for a size alone. -/
theorem sizedVerdict_of_size (asked : Text) (lead : Lead) (short : Bool) :
    sizedVerdict [("company_size".toList, asked)] lead short
      = if short then .invalid ("Company size does not meet requirement (".toList ++ asked ++ [')'])
        else .valid := by
  have hasked : term [("company_size".toList, asked)] "company_size" = asked := rfl
  have hindustry : industryFits (term [("company_size".toList, asked)] "industry") lead.industry
      = true := rfl
  have hgeo : regionFits (term [("company_size".toList, asked)] "geo") lead.location = true := rfl
  rw [sizedVerdict, hasked, hindustry, hgeo]
  rfl

theorem other_of_sizes (hleast : (natText least).length ≤ digitLimit)
    (hlo : (natText lo).length ≤ digitLimit) {lead : Lead} (hcontact : HasContact lead)
    (hbucket : StatesBucket lo lead.employees) (hreq : lead.req = sizeRequest commas least) :
    other lead = .ok (if lo < least then
        .invalid ("Company size does not meet requirement (".toList
          ++ (rendered commas least ++ "+".toList) ++ ")".toList)
      else .valid) := by
  have hshort : fallsShort (rendered commas least ++ "+".toList) lead.employees
      = .ok (decide (lo < least)) := by
    rw [fallsShort, isOpen_size, (statesLeast_rendered commas least).minimumSize_eq hleast,
      hbucket.bucketSize_eq hlo]
    rfl
  have hasked : term [("company_size".toList, rendered commas least ++ "+".toList)] "company_size"
      = rendered commas least ++ "+".toList := rfl
  rw [other, hreq, read_sizeRequest]
  dsimp only
  rw [otherVerdict_of_contact hcontact, hasked, hshort]
  show Except.ok (sizedVerdict _ lead (decide (lo < least))) = _
  rw [sizedVerdict_of_size]
  simp only [decide_eq_true_eq]
  rfl

/-- **Written sizes are compared as the numbers that they are.** However numbers of no more than
4300 digits are written, a lower bound that is asked for is read as its number, and a bucket as the
number that it starts at. So a lead with a company and an address is invalid exactly if its bucket
starts below the size that is asked for, which is quoted, and it is valid otherwise. -/
theorem other_of_written_sizes (least lo : Nat) (hleast : (natText least).length ≤ digitLimit)
    (hlo : (natText lo).length ≤ digitLimit) :
    (∀ t, StatesLeast least t → minimumSize t = .ok (some least))
      ∧ (∀ t, StatesBucket lo t → bucketSize t = .ok (some lo))
      ∧ ∀ (commas : Bool) (lead : Lead), HasContact lead → StatesBucket lo lead.employees →
        lead.req = "Company Size: ".toList ++ (rendered commas least ++ "+".toList) →
        other lead = .ok (if lo < least then
            .invalid ("Company size does not meet requirement (".toList
              ++ (rendered commas least ++ "+".toList) ++ ")".toList)
          else .valid) :=
  ⟨fun _ h => h.minimumSize_eq hleast, fun _ h => h.bucketSize_eq hlo,
    fun _ _ hcontact hbucket hreq => other_of_sizes hleast hlo hcontact hbucket hreq⟩

/-- A lead whose bucket is a range with blanks before the minus. -/
def rangeLead : Lead where
  company := "Acme"
  email := "jane@acme.com"
  employees := "approx. 9,500 -10000 staff"
  req := "Company Size: 10,000+"

theorem other_of_written_sizes_below :
    HasContact rangeLead ∧ StatesBucket 9500 rangeLead.employees
      ∧ other rangeLead
        = .ok (.invalid "Company size does not meet requirement (10,000+)") := by
  have hcontact : HasContact rangeLead := ⟨by decide +kernel, by decide +kernel⟩
  have hbefore : ∀ c ∈ "approx. ".toList, isDigit c = false := by
    have hall : ("approx. ".toList.all fun c => !isDigit c) = true := by decide +kernel
    intro c hc
    simpa using List.all_eq_true.mp hall c hc
  have hbucket : StatesBucket 9500 rangeLead.employees :=
    @StatesBucket.range 9500 "approx. " " " " staff" true false 10000 hbefore
      (blank_of_allBlank (by decide)) (by decide)
  have hleast : (natText 10000).length ≤ digitLimit := by decide
  have hlo : (natText 9500).length ≤ digitLimit := by decide
  exact ⟨hcontact, hbucket,
    (other_of_written_sizes 10000 9500 hleast hlo).2.2 true rangeLead hcontact hbucket rfl⟩

end Rule

end LeadScreen
