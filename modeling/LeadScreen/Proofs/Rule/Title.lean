import LeadScreen.Proofs.Requisition.TitleTerms
import LeadScreen.Proofs.Rule.Answer
import LeadScreen.Rule.Title

set_option autoImplicit false

/-! # What the title rule decides

The verdict on a title is laid down in terms of tokens alone: those of the job levels, those of
the keywords and those of the title. `Decides` has a rule for each outcome, in the order in which
the shares are looked at, and the title rule follows it (`title_eq_ok_iff`). Since a requisition's
terms have the tokens that were written down, the rules can be followed on the request as it is
written (`title_of_request`).
-/

namespace LeadScreen.Rule

open Text

/-! ## The rules -/

def lacking (required present : List Text) : List Text :=
  required.filter fun token => !present.elem token

def shareOf (required present : List Text) : Binary64 :=
  .ofRatio false (required.countP fun token => present.elem token) required.length

/-- Tokens are required, and a smaller share than demanded is present. -/
def FallsShort (demanded : Binary64) (required present : List Text) : Prop :=
  required ≠ [] ∧ (shareOf required present).lt demanded = true

instance (demanded : Binary64) (required present : List Text) :
    Decidable (FallsShort demanded required present) :=
  inferInstanceAs (Decidable (_ ∧ _))

/-- A title is there, if there has to be one. -/
def IsTitled (demand : TitleDemand) (present : List Text) : Prop :=
  demand.titleRequired = true → present ≠ []

instance (demand : TitleDemand) (present : List Text) : Decidable (IsTitled demand present) :=
  inferInstanceAs (Decidable (_ → _))

/-- **The rules for a title**, by the tokens of job levels, of keywords and of the title. The share
of job levels is looked at before that of keywords, and that of both together comes last. -/
inductive Decides (demand : TitleDemand) (levels keywords present : List Text) : Verdict → Prop where
  /-- A title that has to be there is missing. -/
  | untitled (htitle : ¬ IsTitled demand present) :
      Decides demand levels keywords present (.invalid "Missing title")
  /-- Nothing is asked of the title. -/
  | unasked (htitle : IsTitled demand present) (hlevels : levels = []) (hkeywords : keywords = []) :
      Decides demand levels keywords present .valid
  /-- Too few tokens of job levels are there. -/
  | level (htitle : IsTitled demand present) (hshort : FallsShort demand.levels levels present) :
      Decides demand levels keywords present (.invalid ("Title missing level terms: ".toList
        ++ listing demand.listed (lacking levels present)))
  /-- Enough of job levels, but too few of keywords. -/
  | keyword (htitle : IsTitled demand present) (hlevel : ¬ FallsShort demand.levels levels present)
      (hshort : FallsShort demand.keywords keywords present) :
      Decides demand levels keywords present (.invalid ("Title missing keyword terms: ".toList
        ++ listing demand.listed (lacking keywords present)))
  /-- Enough of either, but too few of both together. -/
  | total {all : List Text} (hall : all = (levels ++ keywords).eraseDups)
      (htitle : IsTitled demand present) (hlevel : ¬ FallsShort demand.levels levels present)
      (hkeyword : ¬ FallsShort demand.keywords keywords present)
      (hshort : FallsShort demand.total all present) :
      Decides demand levels keywords present (.invalid ("Title similarity too low (".toList
        ++ intText (percent (shareOf all present)) ++ "%). Missing: ".toList
        ++ listing demand.listed (lacking all present)))
  /-- Enough of all. -/
  | covered {all : List Text} (hall : all = (levels ++ keywords).eraseDups)
      (htitle : IsTitled demand present) (hlevel : ¬ FallsShort demand.levels levels present)
      (hkeyword : ¬ FallsShort demand.keywords keywords present)
      (hcovered : ¬ FallsShort demand.total all present) :
      Decides demand levels keywords present .valid

/-! ## The title rule follows them -/

variable {demand : TitleDemand} {levels keywords present required : List Text} {v : Verdict}
  {demanded : Binary64}

theorem missing_coverage (required present : List Text) :
    (coverage required present).missing = lacking required present := by
  cases required with
  | nil => rfl
  | cons token required =>
      rw [coverage, if_neg (by simp), lacking]

theorem ratio_coverage (h : required ≠ []) :
    (coverage required present).ratio = shareOf required present := by
  rw [coverage, if_neg (by simpa using h), shareOf, List.countP_eq_length_filter]

theorem fallsShort_iff : FallsShort demanded required present
    ↔ required ≠ [] ∧ (coverage required present).ratio.lt demanded = true := by
  refine and_congr_right fun hne => ?_
  rw [ratio_coverage hne]

/-- The guard of a share that is looked at. -/
theorem guard_iff : (!required.isEmpty && (coverage required present).ratio.lt demanded) = true
    ↔ FallsShort demanded required present := by
  rw [fallsShort_iff, Bool.and_eq_true]
  simp

/-- Some rule decides every title. -/
theorem exists_decides (demand : TitleDemand) (levels keywords present : List Text) :
    ∃ v, Decides demand levels keywords present v := by
  by_cases htitle : IsTitled demand present
  · by_cases hlevel : FallsShort demand.levels levels present
    · exact ⟨_, .level htitle hlevel⟩
    · by_cases hkeyword : FallsShort demand.keywords keywords present
      · exact ⟨_, .keyword htitle hlevel hkeyword⟩
      · by_cases hshort : FallsShort demand.total (levels ++ keywords).eraseDups present
        · exact ⟨_, .total rfl htitle hlevel hkeyword hshort⟩
        · exact ⟨_, .covered rfl htitle hlevel hkeyword hshort⟩
  · exact ⟨_, .untitled htitle⟩

/-- On a title that is there, the verdict found from tokens is the one that a rule gives. -/
theorem titleVerdict_eq (htitle : IsTitled demand present)
    (h : Decides demand levels keywords present v) :
    titleVerdict demand levels keywords present = v := by
  -- shares are looked at behind the question whether anything is asked for
  have hasked : levels ++ keywords ≠ [] →
      (levels ++ keywords).eraseDups.isEmpty ≠ true := fun hne hempty =>
    hne (eraseDups_eq_nil_iff.mp (List.isEmpty_iff.mp hempty))
  unfold titleVerdict
  dsimp only
  rw [distinct_eq_eraseDups]
  cases h with
  | untitled hnot => exact absurd htitle hnot
  | unasked _ hlevels hkeywords =>
      rw [hlevels, hkeywords]
      rfl
  | level _ hshort =>
      have hne := List.append_ne_nil_of_left_ne_nil hshort.1 keywords
      rw [if_neg (hasked hne), if_pos (guard_iff.mpr hshort), missing_coverage]
  | keyword _ hlevel hshort =>
      have hne := List.append_ne_nil_of_right_ne_nil levels hshort.1
      rw [if_neg (hasked hne), if_neg (mt guard_iff.mp hlevel), if_pos (guard_iff.mpr hshort),
        missing_coverage]
  | total hall _ hlevel hkeyword hshort =>
      rw [hall] at hshort ⊢
      have hne := mt eraseDups_eq_nil_iff.mpr hshort.1
      rw [if_neg (hasked hne), if_neg (mt guard_iff.mp hlevel), if_neg (mt guard_iff.mp hkeyword),
        if_pos (fallsShort_iff.mp hshort).2, missing_coverage, ratio_coverage hshort.1]
  | covered hall _ hlevel hkeyword hcovered =>
      rw [hall] at hcovered
      by_cases hnone : levels ++ keywords = []
      · rw [hnone]
        rfl
      · have hfew : ¬ (coverage (levels ++ keywords).eraseDups present).ratio.lt demand.total = true :=
          fun hlt => hcovered (fallsShort_iff.mpr ⟨mt eraseDups_eq_nil_iff.mp hnone, hlt⟩)
        rw [if_neg (hasked hnone), if_neg (mt guard_iff.mp hlevel), if_neg (mt guard_iff.mp hkeyword),
          if_neg hfew]

theorem isTitled_iff {t : Text} : IsTitled demand (tokens t)
    ↔ (demand.titleRequired && (plain t).isEmpty) = false := by
  rw [IsTitled, Bool.and_eq_false_imp, List.isEmpty_eq_false_iff, ne_eq, ne_eq, plain_eq_nil_iff]

/-- A title that has to be there and is not makes the verdict, whatever the requisition. -/
theorem title_of_untitled {lead : Lead} (h : ¬ IsTitled demand (tokens lead.title)) :
    title demand lead = .ok (.invalid "Missing title") := by
  have hmissing : (demand.titleRequired && (plain lead.title).isEmpty) = true := by
    simpa using mt isTitled_iff.mpr h
  rw [title, if_pos hmissing]

/-- With any other title the requisition is read. -/
theorem title_of_titled {lead : Lead} (h : IsTitled demand (tokens lead.title)) :
    title demand lead = match Requisition.read lead.req with
      | .error reason => .error (.comments reason)
      | .ok r => .ok (titleVerdict demand (tokensOf (r.comments.values .titles "job_levels"))
          (tokensOf (r.comments.values .titles "keywords")) (tokens (plain lead.title))) := by
  have hguard : ¬ (demand.titleRequired && (plain lead.title).isEmpty) = true := by
    rw [isTitled_iff.mp h]
    exact Bool.false_ne_true
  exact if_neg hguard

/-- **When the title rule fails**: on comments that are refused, if the title is there. -/
theorem title_eq_error_iff {lead : Lead} : (∃ failure, title demand lead = .error failure)
    ↔ IsTitled demand (tokens lead.title) ∧ ∃ e, Requisition.read lead.req = .error e := by
  by_cases htitle : IsTitled demand (tokens lead.title)
  · rw [title_of_titled htitle]
    cases hread : Requisition.read lead.req with
    | error e => exact iff_of_true ⟨_, rfl⟩ ⟨htitle, e, rfl⟩
    | ok r => exact iff_of_false nofun nofun
  · rw [title_of_untitled htitle]
    exact iff_of_false nofun fun h => htitle h.1

/-- **The title rule follows the rules for titles** wherever it can read the requisition. -/
theorem title_eq_ok_iff {lead : Lead} {r : Requisition} (hread : Requisition.read lead.req = .ok r) :
    title demand lead = .ok v
      ↔ Decides demand (tokensOf (r.comments.values .titles "job_levels"))
        (tokensOf (r.comments.values .titles "keywords")) (tokens lead.title) v := by
  have hrule : ∀ {v : Verdict}, Decides demand (tokensOf (r.comments.values .titles "job_levels"))
      (tokensOf (r.comments.values .titles "keywords")) (tokens lead.title) v →
        title demand lead = .ok v := by
    intro v h
    by_cases htitle : IsTitled demand (tokens lead.title)
    · rw [title_of_titled htitle, hread]
      dsimp only
      rw [tokens_plain, titleVerdict_eq htitle h]
    · rw [title_of_untitled htitle]
      cases h with
      | untitled => rfl
      | unasked h => exact absurd h htitle
      | level h => exact absurd h htitle
      | keyword h => exact absurd h htitle
      | total _ h => exact absurd h htitle
      | covered _ h => exact absurd h htitle
  constructor
  · intro h
    obtain ⟨w, hw⟩ := exists_decides demand (tokensOf (r.comments.values .titles "job_levels"))
      (tokensOf (r.comments.values .titles "keywords")) (tokens lead.title)
    rw [hrule hw] at h
    exact Except.ok.inj h ▸ hw
  · exact hrule

/-- The rules for titles settle the matter. -/
theorem Decides.isSettled (h : Decides demand levels keywords present v) : v.IsSettled := by
  cases h with
  | untitled => exact isSettled_invalid ⟨'M', rfl, by decide⟩
  | unasked => exact isSettled_valid
  | level => exact isSettled_invalid ⟨'T', rfl, by decide⟩
  | keyword => exact isSettled_invalid ⟨'T', rfl, by decide⟩
  | total => exact isSettled_invalid ⟨'T', rfl, by decide⟩
  | covered => exact isSettled_valid

/-- Where the title rule does not fail, it settles the matter. -/
theorem isSettled_of_title {lead : Lead} (h : title demand lead = .ok v) : v.IsSettled := by
  by_cases htitle : IsTitled demand (tokens lead.title)
  · cases hread : Requisition.read lead.req with
    | error e =>
        rw [title_of_titled htitle, hread] at h
        cases h
    | ok r => exact ((title_eq_ok_iff hread).mp h).isSettled
  · rw [title_of_untitled htitle] at h
    exact Except.ok.inj h ▸ isSettled_invalid ⟨'M', rfl, by decide⟩

/-! ## The request as it is written -/

/-- **Titles are decided by the tokens of the request as it is written.** Whatever becomes of its
levels and keywords on the way, the rule comes to a verdict, and it is the one verdict that the
rules give on the tokens of both, each once. -/
theorem title_of_request (demand : TitleDemand) (lead : Lead) (levels keywords : Text)
    (hlevels : Markup.Unmarked levels) (hkeywords : Markup.Unmarked keywords)
    (hsome : levels.trim ≠ []) :
    ∃ v, title demand { lead with req := titleRequest levels keywords } = .ok v
      ∧ ∀ w, Decides demand (tokens levels).eraseDups (tokens keywords).eraseDups
        (tokens lead.title) w ↔ w = v := by
  obtain ⟨r, hread, hjobs, hwords⟩ := exists_read_titleRequest hlevels hkeywords hsome
  have hfollows : ∀ w, title demand { lead with req := titleRequest levels keywords } = .ok w
      ↔ Decides demand (tokens levels).eraseDups (tokens keywords).eraseDups
        (tokens lead.title) w := by
    intro w
    rw [@title_eq_ok_iff demand w { lead with req := titleRequest levels keywords } r hread,
      tokensOf, tokensOf, distinct_eq_eraseDups, distinct_eq_eraseDups, hjobs, hwords]
  obtain ⟨v, hv⟩ := exists_decides demand (tokens levels).eraseDups (tokens keywords).eraseDups
    (tokens lead.title)
  have hok := (hfollows v).mpr hv
  refine ⟨v, hok, fun w => ?_⟩
  rw [← hfollows w, hok, Except.ok.injEq]
  exact eq_comm

/-- One of the two keywords is enough of keywords, but not enough in all. -/
theorem title_of_request_partly :
    Markup.Unmarked "VP".toList ∧ Markup.Unmarked "Sales, Marketing".toList
      ∧ Text.trim "VP" ≠ []
      ∧ title {} { title := "VP of Sales".toList, req := titleRequest "VP" "Sales, Marketing" }
        = .ok (.invalid "Title similarity too low (67%). Missing: marketing") := by
  have hlevels : Markup.Unmarked "VP".toList := ⟨by decide, by decide⟩
  have hkeywords : Markup.Unmarked "Sales, Marketing".toList := ⟨by decide, by decide⟩
  have hsome : Text.trim "VP" ≠ [] := by decide
  obtain ⟨v, hok, hv⟩ := title_of_request {} { title := "VP of Sales".toList } "VP"
    "Sales, Marketing" hlevels hkeywords hsome
  have hlevel : (tokens "VP").eraseDups = ["vp".toList] := by decide +kernel
  have hkeyword : (tokens "Sales, Marketing").eraseDups = ["sales".toList, "marketing".toList] := by
    decide +kernel
  have hpresent : tokens "VP of Sales".toList = ["vp".toList, "of".toList, "sales".toList] := by
    decide +kernel
  rw [hlevel, hkeyword, hpresent] at hv
  have hverdict := (hv _).mp (.total rfl (by decide +kernel) (by decide +kernel)
    (by decide +kernel) (by decide +kernel))
  rw [← hverdict] at hok
  exact ⟨hlevels, hkeywords, hsome, hok.trans (by decide +kernel)⟩

end LeadScreen.Rule
