import LeadScreen.Proofs.Rule.Other
import LeadScreen.Proofs.Rule.Title
import LeadScreen.Rule.Dispatch

set_option autoImplicit false

/-! # What becomes of a lead

Every lead gets a verdict. Which leads have to be looked at again is known from the leads: those
with a sub-status or a status of the kind, and those whose requisition or size makes a rule fail
(`Fails`). `judge_characterised` says so, along with what the comments tell.
-/

namespace LeadScreen.Rule

variable {demand : TitleDemand} {lead : Lead} {s : SubStatus} {v : Verdict}

/-! ## The rule that is chosen -/

/-- The rule of a sub-status, as one that may fail. -/
def ruleFor (demand : TitleDemand) : SubStatus → Lead → Except Failure Verdict
  | .titleSummary => title demand
  | .prooflink => fun lead => .ok (prooflink lead)
  | .nwc => fun lead => .ok (status lead)
  | .other => other

theorem handlerFor_eq (demand : TitleDemand) (s : SubStatus) :
    handlerFor demand s = .ofRule (ruleFor demand s) := by
  cases s <;> rfl

theorem judge_of_unknown (h : ∀ s : SubStatus, lead.subStatus.trim ≠ s.text) :
    judge demand lead = .recheck ("Unknown sub_status: ".toList ++ lead.subStatus) := by
  have hnone : SubStatus.read? lead.subStatus = none :=
    Option.eq_none_iff_forall_ne_some.mpr fun s hs => h s (SubStatus.read?_eq_some_iff.mp hs)
  rw [judge, judgeBy, hnone]
  rfl

theorem judge_of_ok (hs : lead.subStatus.trim = s.text) (h : ruleFor demand s lead = .ok v) :
    judge demand lead = v := by
  rw [judge, judgeBy, SubStatus.read?_eq_some_iff.mpr hs]
  dsimp only [Option.bind_some]
  rw [handlerFor_eq, Handler.ofRule, h]

theorem judge_of_error {failure : Failure} (hs : lead.subStatus.trim = s.text)
    (h : ruleFor demand s lead = .error failure) :
    judge demand lead = .recheck ("Handler error for sub_status: ".toList ++ lead.subStatus
      ++ ": ".toList ++ failure.message) := by
  rw [judge, judgeBy, SubStatus.read?_eq_some_iff.mpr hs]
  dsimp only [Option.bind_some]
  rw [handlerFor_eq, Handler.ofRule, h]

/-! ## Failures -/

/-- **The rule that is chosen fails**: on comments that are refused, or on a bound with too many
digits, where it comes to them. -/
inductive Fails (demand : TitleDemand) (lead : Lead) : Prop where
  /-- The title rule reads the comments if the title is there. -/
  | titleComments (hs : lead.subStatus.trim = SubStatus.titleSummary.text)
      (htitle : IsTitled demand (Text.tokens lead.title))
      (hrefused : Requisition.Refused lead.req) : Fails demand lead
  /-- The rule for other leads reads them first of all. -/
  | otherComments (hs : lead.subStatus.trim = SubStatus.other.text)
      (hrefused : Requisition.Refused lead.req) : Fails demand lead
  /-- It reads bounds where sizes are compared. -/
  | otherBounds {r : Requisition} (hs : lead.subStatus.trim = SubStatus.other.text)
      (hread : Requisition.read lead.req = .ok r) (hsizes : ComparesSizes r.terms lead)
      (hover : OversizedBounds (term r.terms "company_size") lead.employees) : Fails demand lead

/-- A lead is checked by one rule. -/
theorem eq_of_text_eq {s s' : SubStatus} (h : s.text = s'.text) : s = s' := by
  have hread := SubStatus.read?_text s
  rw [h, SubStatus.read?_text s'] at hread
  exact (Option.some.inj hread).symm

/-- The rule that is chosen fails where it is said to. -/
theorem ruleFor_eq_error_iff (hs : lead.subStatus.trim = s.text) :
    (∃ failure, ruleFor demand s lead = .error failure) ↔ Fails demand lead := by
  constructor
  · intro h
    cases s with
    | titleSummary =>
        obtain ⟨htitle, hrefused⟩ := title_eq_error_iff.mp h
        exact .titleComments hs htitle (Requisition.exists_read_eq_error_iff.mp hrefused)
    | prooflink => exact absurd h nofun
    | nwc => exact absurd h nofun
    | other =>
        rcases other_eq_error_iff.mp h with hrefused | ⟨r, hread, hsizes, hover⟩
        · exact .otherComments hs hrefused
        · exact .otherBounds hs hread hsizes hover
  · intro h
    cases h with
    | titleComments hs' htitle hrefused =>
        obtain rfl := eq_of_text_eq (hs.symm.trans hs')
        exact title_eq_error_iff.mpr ⟨htitle, Requisition.exists_read_eq_error_iff.mpr hrefused⟩
    | otherComments hs' hrefused =>
        obtain rfl := eq_of_text_eq (hs.symm.trans hs')
        exact other_eq_error_iff.mpr (Or.inl hrefused)
    | otherBounds hs' hread hsizes hover =>
        obtain rfl := eq_of_text_eq (hs.symm.trans hs')
        exact other_eq_error_iff.mpr (Or.inr ⟨_, hread, hsizes, hover⟩)

/-- A failure needs a sub-status that is known. -/
theorem Fails.known (h : Fails demand lead) : ∃ s : SubStatus, lead.subStatus.trim = s.text := by
  cases h with
  | titleComments hs => exact ⟨_, hs⟩
  | otherComments hs => exact ⟨_, hs⟩
  | otherBounds hs => exact ⟨_, hs⟩

/-! ## Verdicts -/

theorem isSettled_prooflink (lead : Lead) : (prooflink lead).IsSettled := by
  rw [prooflink_eq]
  split
  · exact isSettled_invalid ⟨'P', rfl, by decide⟩
  · exact isSettled_valid

theorem isAnswer_of_ruleFor (h : ruleFor demand s lead = .ok v) : v.IsAnswer := by
  cases s with
  | titleSummary => exact (isSettled_of_title h).toIsAnswer
  | prooflink => exact Except.ok.inj h ▸ (isSettled_prooflink lead).toIsAnswer
  | nwc => exact Except.ok.inj h ▸ isAnswer_statusVerdict _
  | other => exact (isSettled_of_other h).toIsAnswer

/-- Of the rules that give a verdict, the status rule alone asks for another look. -/
theorem finding_of_ruleFor (h : ruleFor demand s lead = .ok v) :
    v.finding = .recheck ↔ s = .nwc ∧ Text.lower lead.status.trim ∈ openStatuses := by
  cases s with
  | titleSummary => exact iff_of_false (isSettled_of_title h).settled (fun h => nomatch h.1)
  | prooflink =>
      obtain rfl := Except.ok.inj h
      exact iff_of_false (isSettled_prooflink lead).settled (fun h => nomatch h.1)
  | nwc =>
      obtain rfl := Except.ok.inj h
      exact (finding_statusVerdict _).trans (by simp)
  | other => exact iff_of_false (isSettled_of_other h).settled (fun h => nomatch h.1)

/-- A lead that is checked for its proof link is settled, by the link being there or not. -/
theorem finding_of_prooflink (hs : lead.subStatus.trim = SubStatus.prooflink.text) :
    (judge demand lead).finding ≠ .recheck
      ∧ ((judge demand lead).finding = .valid ↔ lead.prooflink.trim ≠ []) := by
  have hjudge : judge demand lead = prooflink lead := judge_of_ok (s := .prooflink) hs rfl
  rw [hjudge]
  refine ⟨(isSettled_prooflink lead).settled, ?_⟩
  rw [prooflink_eq]
  split
  · rename_i hblank
    exact iff_of_false nofun fun hne => hne hblank
  · rename_i hne
    exact iff_of_true rfl hne

/-- The ways in which a lead comes to its verdict: no rule is chosen, or the one that is chosen fails
or gives the verdict. -/
theorem judge_cases (demand : TitleDemand) (lead : Lead) :
    ((∀ s : SubStatus, lead.subStatus.trim ≠ s.text)
        ∧ judge demand lead = .recheck ("Unknown sub_status: ".toList ++ lead.subStatus))
      ∨ (Fails demand lead ∧ ∃ message, judge demand lead
        = .recheck ("Handler error for sub_status: ".toList ++ lead.subStatus ++ message))
      ∨ ∃ s, lead.subStatus.trim = s.text ∧ ¬ Fails demand lead
        ∧ ruleFor demand s lead = .ok (judge demand lead) := by
  by_cases hknown : ∃ s : SubStatus, lead.subStatus.trim = s.text
  · obtain ⟨s, hs⟩ := hknown
    cases hrule : ruleFor demand s lead with
    | error failure =>
        refine Or.inr (Or.inl ⟨(ruleFor_eq_error_iff hs).mp ⟨failure, hrule⟩,
          ": ".toList ++ failure.message, ?_⟩)
        rw [judge_of_error hs hrule, List.append_assoc _ ": ".toList]
    | ok v =>
        refine Or.inr (Or.inr ⟨s, hs, fun hfails => ?_, by rw [judge_of_ok hs hrule, hrule]⟩)
        obtain ⟨failure, herror⟩ := (ruleFor_eq_error_iff hs).mpr hfails
        rw [hrule] at herror
        cases herror
  · have hunknown : ∀ s : SubStatus, lead.subStatus.trim ≠ s.text := fun s hs => hknown ⟨s, hs⟩
    exact Or.inl ⟨hunknown, judge_of_unknown hunknown⟩

/-- What is said of a failure is not what is said of a missing result. -/
theorem not_empty_result_prefix (t : Text) :
    ¬ "Handler returned empty result".toList <+: "Handler error for sub_status: ".toList ++ t := by
  rintro ⟨rest, hrest⟩
  -- the two part ways behind the first word
  have hninth := congrArg (fun comment : Text => (comment.drop 8).head?) hrest
  exact absurd (Option.some.inj hninth) (by decide)

/-- **What becomes of a lead.** Its verdict has no comment exactly if it is favourable, and none
about a rule without a result. The lead has to be looked at again if its sub-status is unknown, if
it is checked for its status and that is one of three, if the rule fails, and for no other reason;
where the rule fails, the comment says so. A lead that is checked for its proof link is valid
exactly if there is one, and need not be looked at again. -/
theorem judge_characterised (demand : TitleDemand) (lead : Lead) :
    ((judge demand lead).comment = none ↔ (judge demand lead).finding = .valid)
      ∧ (∀ c ∈ (judge demand lead).comment, ¬ "Handler returned empty result".toList <+: c)
      ∧ ((judge demand lead).finding = .recheck
        ↔ (∀ s : SubStatus, lead.subStatus.trim ≠ s.text)
          ∨ (lead.subStatus.trim = SubStatus.nwc.text
            ∧ Text.lower lead.status.trim ∈ (["r", "no info", "no company match"] : List Text))
          ∨ Fails demand lead)
      ∧ (Fails demand lead → ∃ c ∈ (judge demand lead).comment,
          "Handler error for sub_status: ".toList ++ lead.subStatus <+: c)
      ∧ (lead.subStatus.trim = SubStatus.prooflink.text →
        (judge demand lead).finding ≠ .recheck
          ∧ ((judge demand lead).finding = .valid ↔ lead.prooflink.trim ≠ [])) := by
  rcases judge_cases demand lead with
    ⟨hunknown, hjudge⟩ | ⟨hfails, message, hjudge⟩ | ⟨s, hs, hfails, hrule⟩
  · -- no rule is chosen
    refine ⟨?_, ?_, ?_, ?_, finding_of_prooflink⟩
    · rw [hjudge]
      exact iff_of_false nofun nofun
    · rw [hjudge]
      rintro c hc ⟨rest, hrest⟩
      rw [← Option.some.inj hc] at hrest
      exact absurd (List.cons.inj hrest).1 (by decide)
    · rw [hjudge]
      exact iff_of_true rfl (Or.inl hunknown)
    · intro hfails
      obtain ⟨s, hs⟩ := hfails.known
      exact absurd hs (hunknown s)
  · -- the rule fails
    refine ⟨?_, ?_, ?_, ?_, finding_of_prooflink⟩
    · rw [hjudge]
      exact iff_of_false nofun nofun
    · rw [hjudge]
      intro c hc
      rw [← Option.some.inj hc, List.append_assoc]
      exact not_empty_result_prefix _
    · rw [hjudge]
      exact iff_of_true rfl (Or.inr (Or.inr hfails))
    · intro _
      rw [hjudge]
      exact ⟨_, rfl, message, rfl⟩
  · -- the verdict is the rule's own
    have hanswer := isAnswer_of_ruleFor hrule
    refine ⟨hanswer.explained, ?_, ?_, fun h => absurd h hfails, finding_of_prooflink⟩
    · intro c hc hprefix
      exact hanswer.own c hc ((List.prefix_append "Handler".toList _).trans hprefix)
    · rw [finding_of_ruleFor hrule]
      constructor
      · rintro ⟨rfl, hstatus⟩
        exact Or.inr (Or.inl ⟨hs, hstatus⟩)
      · rintro (hunknown | ⟨hs', hstatus⟩ | h)
        · exact absurd hs (hunknown s)
        · exact ⟨eq_of_text_eq (hs.symm.trans hs'), hstatus⟩
        · exact absurd h hfails

end LeadScreen.Rule
