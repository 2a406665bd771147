import LeadScreen.Proofs.Number.Rounding
import LeadScreen.Proofs.Rule.Title
import Mathlib.Data.List.Nodup

set_option autoImplicit false

/-! # What a title covers

A title passes or not by three shares (`Passes`), and what becomes of it depends on sets of tokens
alone (`found_by_token_sets`): a title with more tokens passes wherever one with fewer does, and
requisitions that ask for the same tokens, in whatever order and grouping, find the same of every
title. The shares are rounded numbers, and rounding keeps their order.
-/

namespace LeadScreen.Rule

open Text

variable {demand : TitleDemand} {demanded : Binary64}
  {levels keywords others present more required : List Text} {v : Verdict}

/-! ## Shares -/

/-- What a title with more tokens falls short of, a title with fewer tokens does. -/
theorem FallsShort.of_subset (hsub : present ⊆ more) (h : FallsShort demanded required more) :
    FallsShort demanded required present := by
  obtain ⟨hne, hlt⟩ := h
  -- more is present of the same tokens required, and the greater share is not below the lesser
  have hfew : (required.countP fun token => present.elem token)
      ≤ required.countP fun token => more.elem token := by
    refine List.countP_mono_left fun token _ hmem => ?_
    exact List.elem_iff.mpr (hsub (List.elem_iff.mp hmem))
  have hall : (required.countP fun token => more.elem token) ≤ required.length :=
    List.countP_le_length
  have hsome : 0 < required.length := List.length_pos_of_ne_nil hne
  exact ⟨hne, Binary64.lt_ofRatio_of_le hfew hall hsome hlt⟩

/-- The order of the tokens required does not matter. -/
theorem fallsShort_congr (hperm : required.Perm others) :
    FallsShort demanded required present ↔ FallsShort demanded others present := by
  have hshare : shareOf required present = shareOf others present := by
    rw [shareOf, shareOf, hperm.countP_eq, hperm.length_eq]
  have hnone : required = [] ↔ others = [] := by
    rw [← List.length_eq_zero_iff, hperm.length_eq, List.length_eq_zero_iff]
  rw [FallsShort, FallsShort, hshare, Ne, hnone]

/-! ## Titles that pass -/

/-- **A title passes**: it is there if it has to be, and falls short of none of the three shares. -/
structure Passes (demand : TitleDemand) (levels keywords present : List Text) : Prop where
  titled : IsTitled demand present
  level : ¬ FallsShort demand.levels levels present
  keyword : ¬ FallsShort demand.keywords keywords present
  total : ¬ FallsShort demand.total (levels ++ keywords).eraseDups present

/-- Titles that pass are valid, and no others. -/
theorem Decides.finding_eq_valid_iff (h : Decides demand levels keywords present v) :
    v.finding = .valid ↔ Passes demand levels keywords present := by
  cases h with
  | untitled htitle => exact iff_of_false nofun fun hp => htitle hp.titled
  | unasked htitle hlevels hkeywords =>
      -- where nothing is asked for, there is nothing to fall short of
      subst hlevels hkeywords
      exact iff_of_true rfl ⟨htitle, fun hs => hs.1 rfl, fun hs => hs.1 rfl, fun hs => hs.1 rfl⟩
  | level _ hshort => exact iff_of_false nofun fun hp => hp.level hshort
  | keyword _ _ hshort => exact iff_of_false nofun fun hp => hp.keyword hshort
  | total hall _ _ _ hshort =>
      subst hall
      exact iff_of_false nofun fun hp => hp.total hshort
  | covered hall htitle hlevel hkeyword hcovered =>
      subst hall
      exact iff_of_true rfl ⟨htitle, hlevel, hkeyword, hcovered⟩

theorem IsTitled.of_subset (hsub : present ⊆ more) (h : IsTitled demand present) :
    IsTitled demand more := by
  intro hrequired hnone
  rw [hnone] at hsub
  exact h hrequired (List.subset_nil.mp hsub)

/-- **A title with more tokens passes** wherever one with fewer does. -/
theorem Passes.of_subset (hsub : present ⊆ more) (h : Passes demand levels keywords present) :
    Passes demand levels keywords more where
  titled := h.titled.of_subset hsub
  level := mt (FallsShort.of_subset hsub) h.level
  keyword := mt (FallsShort.of_subset hsub) h.keyword
  total := mt (FallsShort.of_subset hsub) h.total

theorem nodup_eraseDups (items : List Text) : items.eraseDups.Nodup :=
  distinct_eq_eraseDups items ▸ nodup_foldl_pushNew List.nodup_nil items

/-- Of equal members, lists without repetitions are rearrangements. -/
theorem perm_eraseDups {items others : List Text} (h : ∀ x, x ∈ items ↔ x ∈ others) :
    items.eraseDups.Perm others.eraseDups := by
  refine (List.perm_ext_iff_of_nodup (nodup_eraseDups _) (nodup_eraseDups _)).mpr fun x => ?_
  rw [List.mem_eraseDups, List.mem_eraseDups, h]

/-- Whether a title passes depends on which tokens are required, not on their order. -/
theorem passes_congr {levels' keywords' : List Text} (hlevels : levels.Perm levels')
    (hkeywords : keywords.Perm keywords') :
    Passes demand levels keywords present ↔ Passes demand levels' keywords' present := by
  have hboth : (levels ++ keywords).eraseDups.Perm (levels' ++ keywords').eraseDups :=
    perm_eraseDups fun x => (hlevels.append hkeywords).mem_iff
  constructor
  · rintro ⟨htitle, hlevel, hkeyword, htotal⟩
    exact ⟨htitle, mt (fallsShort_congr hlevels).mpr hlevel,
      mt (fallsShort_congr hkeywords).mpr hkeyword, mt (fallsShort_congr hboth).mpr htotal⟩
  · rintro ⟨htitle, hlevel, hkeyword, htotal⟩
    exact ⟨htitle, mt (fallsShort_congr hlevels).mp hlevel,
      mt (fallsShort_congr hkeywords).mp hkeyword, mt (fallsShort_congr hboth).mp htotal⟩

/-! ## What is found of a title -/

def levelValues (r : Requisition) : List Text :=
  r.comments.values .titles "job_levels"

def keywordValues (r : Requisition) : List Text :=
  r.comments.values .titles "keywords"

/-- **What the title rule finds** of a lead. -/
def Finds (demand : TitleDemand) (lead : Lead) (finding : Finding) : Prop :=
  ∃ v, title demand lead = .ok v ∧ v.finding = finding

/-- A verdict is that on a missing title, or the rules give it by a requisition that was read. -/
theorem decides_of_title {lead : Lead} (hok : title demand lead = .ok v) :
    v = .invalid "Missing title" ∨ ∃ r, Requisition.read lead.req = .ok r
      ∧ Decides demand (tokensOf (levelValues r)) (tokensOf (keywordValues r))
        (tokens lead.title) v := by
  by_cases htitle : IsTitled demand (tokens lead.title)
  · cases hread : Requisition.read lead.req with
    | error e =>
        rw [title_of_titled htitle, hread] at hok
        cases hok
    | ok r => exact Or.inr ⟨r, rfl, (title_eq_ok_iff hread).mp hok⟩
  · rw [title_of_untitled htitle] at hok
    exact Or.inl (Except.ok.inj hok).symm

/-- **A title is found valid exactly if it passes** by a requisition that can be read. -/
theorem finds_valid_iff {lead : Lead} : Finds demand lead .valid
    ↔ ∃ r, Requisition.read lead.req = .ok r
      ∧ Passes demand (tokensOf (levelValues r)) (tokensOf (keywordValues r))
        (tokens lead.title) := by
  constructor
  · rintro ⟨v, hok, hvalid⟩
    rcases decides_of_title hok with rfl | ⟨r, hread, hdecides⟩
    · cases hvalid
    · exact ⟨r, hread, hdecides.finding_eq_valid_iff.mp hvalid⟩
  · rintro ⟨r, hread, hpasses⟩
    obtain ⟨v, hdecides⟩ := exists_decides demand (tokensOf (levelValues r))
      (tokensOf (keywordValues r)) (tokens lead.title)
    exact ⟨v, (title_eq_ok_iff hread).mpr hdecides, hdecides.finding_eq_valid_iff.mpr hpasses⟩

theorem finds_valid_iff_of_read {lead : Lead} {r : Requisition}
    (hread : Requisition.read lead.req = .ok r) : Finds demand lead .valid
      ↔ Passes demand (tokensOf (levelValues r)) (tokensOf (keywordValues r))
        (tokens lead.title) := by
  rw [finds_valid_iff]
  constructor
  · rintro ⟨r', hread', hpasses⟩
    obtain rfl := Except.ok.inj (hread.symm.trans hread')
    exact hpasses
  · intro hpasses
    exact ⟨r, hread, hpasses⟩

def SameTokens (values others : List Text) : Prop :=
  ∀ token, token ∈ values.flatMap tokens ↔ token ∈ others.flatMap tokens

theorem mem_tokensOf {values : List Text} {token : Text} :
    token ∈ tokensOf values ↔ token ∈ values.flatMap tokens := by
  rw [tokensOf, distinct_eq_eraseDups, List.mem_eraseDups]

theorem SameTokens.perm {values others : List Text} (h : SameTokens values others) :
    (tokensOf values).Perm (tokensOf others) := by
  rw [tokensOf, tokensOf, distinct_eq_eraseDups, distinct_eq_eraseDups]
  exact perm_eraseDups h

/-- What the request for titles requires. -/
theorem exists_requires_titleRequest {wanted words : Text} (hwanted : Markup.Unmarked wanted)
    (hwords : Markup.Unmarked words) (hsome : wanted.trim ≠ []) :
    ∃ r, Requisition.read (titleRequest wanted words) = .ok r
      ∧ tokensOf (levelValues r) = (tokens wanted).eraseDups
      ∧ tokensOf (keywordValues r) = (tokens words).eraseDups := by
  obtain ⟨r, hread, hlevels, hkeywords⟩ := exists_read_titleRequest hwanted hwords hsome
  refine ⟨r, hread, ?_, ?_⟩
  · rw [tokensOf, distinct_eq_eraseDups, levelValues, hlevels]
  · rw [tokensOf, distinct_eq_eraseDups, keywordValues, hkeywords]

theorem eq_of_settled {f g : Finding} (hf : f ≠ .recheck) (hg : g ≠ .recheck)
    (h : f = .valid ↔ g = .valid) : f = g := by
  cases f <;> cases g <;> simp_all

/-- Requisitions that ask for the same tokens find the same of every title. -/
theorem exists_finds_of_sameTokens {lead lead' : Lead} (htitle : lead.title = lead'.title)
    {r r' : Requisition} (hread : Requisition.read lead.req = .ok r)
    (hread' : Requisition.read lead'.req = .ok r')
    (hlevels : SameTokens (levelValues r) (levelValues r'))
    (hkeywords : SameTokens (keywordValues r) (keywordValues r')) :
    ∃ f, Finds demand lead f ∧ Finds demand lead' f := by
  obtain ⟨v, hv⟩ := exists_decides demand (tokensOf (levelValues r))
    (tokensOf (keywordValues r)) (tokens lead.title)
  obtain ⟨v', hv'⟩ := exists_decides demand (tokensOf (levelValues r'))
    (tokensOf (keywordValues r')) (tokens lead'.title)
  -- both settle the matter, so that it is enough for one to be valid exactly if the other is
  have hsame : v'.finding = v.finding := by
    refine eq_of_settled hv'.isSettled.settled hv.isSettled.settled ?_
    rw [hv'.finding_eq_valid_iff, hv.finding_eq_valid_iff, htitle,
      passes_congr hlevels.perm hkeywords.perm]
  exact ⟨v.finding, ⟨v, (title_eq_ok_iff hread).mpr hv, rfl⟩,
    ⟨v', (title_eq_ok_iff hread').mpr hv', hsame⟩⟩

/-- **What is found of a title depends on sets of tokens.** A title that is valid stays so as long
as no token is taken away; words in particular may change places, be repeated and be added. And two
requisitions that ask for the same tokens of levels and for the same tokens of keywords find the
same of every title. -/
theorem found_by_token_sets (demand : TitleDemand) (lead : Lead) :
    (∀ t t' : Text, tokens t ⊆ tokens t' → Finds demand { lead with title := t } .valid →
        Finds demand { lead with title := t' } .valid)
      ∧ (∀ words words' : List Text, words ⊆ words' →
        Finds demand { lead with title := joinWith [' '] words } .valid →
        Finds demand { lead with title := joinWith [' '] words' } .valid)
      ∧ ∀ (req req' : Text) (r r' : Requisition), Requisition.read req = .ok r →
        Requisition.read req' = .ok r' → SameTokens (levelValues r) (levelValues r') →
        SameTokens (keywordValues r) (keywordValues r') →
        ∃ f, Finds demand { lead with req := req } f ∧ Finds demand { lead with req := req' } f := by
  have hmore : ∀ t t' : Text, tokens t ⊆ tokens t' →
      Finds demand { lead with title := t } .valid →
      Finds demand { lead with title := t' } .valid := by
    intro t t' hsub hvalid
    obtain ⟨r, hread, hpasses⟩ := finds_valid_iff.mp hvalid
    exact finds_valid_iff.mpr ⟨r, hread, hpasses.of_subset hsub⟩
  refine ⟨hmore, fun words words' hsub => ?_, fun req req' r r' hread hread' => ?_⟩
  · refine hmore _ _ ?_
    rw [tokens_joinWith, tokens_joinWith]
    intro token htoken
    obtain ⟨word, hword, hmem⟩ := List.mem_flatMap.mp htoken
    exact List.mem_flatMap.mpr ⟨word, hsub hword, hmem⟩
  · exact @exists_finds_of_sameTokens demand { lead with req := req } { lead with req := req' } rfl
      r r' hread hread'

def salesLead : Lead :=
  { title := "VP Sales Marketing", req := titleRequest "VP" "Sales, Marketing" }

/-- The words of the title change places, and the keywords of the requisition change places and are
written twice. -/
theorem found_by_token_sets_rearranged :
    (tokens "VP Sales Marketing" ⊆ tokens "Marketing & sales, VP"
        ∧ Finds {} { salesLead with title := "VP Sales Marketing" } .valid
        ∧ Finds {} { salesLead with title := "Marketing & sales, VP" } .valid)
      ∧ (["VP", "sales, marketing"].map String.toList
          ⊆ ["Marketing", "sales, marketing", "VP"].map String.toList
        ∧ Finds {} { salesLead with
            title := joinWith [' '] (["VP", "sales, marketing"].map String.toList) } .valid
        ∧ Finds {} { salesLead with
            title := joinWith [' '] (["Marketing", "sales, marketing", "VP"].map String.toList) }
          .valid)
      ∧ ∃ r r', Requisition.read (titleRequest "VP" "Sales, Marketing") = .ok r
        ∧ Requisition.read (titleRequest "vp" "marketing sales, Sales") = .ok r'
        ∧ SameTokens (levelValues r) (levelValues r')
        ∧ SameTokens (keywordValues r) (keywordValues r')
        ∧ ∃ f, Finds {} { salesLead with req := titleRequest "VP" "Sales, Marketing" } f
          ∧ Finds {} { salesLead with req := titleRequest "vp" "marketing sales, Sales" } f := by
  have hvp : Markup.Unmarked "VP".toList := ⟨by decide, by decide⟩
  have hvp' : Markup.Unmarked "vp".toList := ⟨by decide, by decide⟩
  have hwords : Markup.Unmarked "Sales, Marketing".toList := ⟨by decide, by decide⟩
  have hwords' : Markup.Unmarked "marketing sales, Sales".toList := ⟨by decide, by decide⟩
  obtain ⟨r, hread, hlevels, hkeywords⟩ := exists_requires_titleRequest hvp hwords (by decide)
  obtain ⟨r', hread', hlevels', hkeywords'⟩ :=
    exists_requires_titleRequest hvp' hwords' (by decide)
  have hfirst : (tokens "VP").eraseDups = ["vp".toList] := by decide +kernel
  have hfirst' : (tokens "vp").eraseDups = ["vp".toList] := by decide +kernel
  have hsecond : (tokens "Sales, Marketing").eraseDups = ["sales".toList, "marketing".toList] := by
    decide +kernel
  have hsecond' : (tokens "marketing sales, Sales").eraseDups
      = ["marketing".toList, "sales".toList] := by decide +kernel
  rw [hfirst] at hlevels
  rw [hfirst'] at hlevels'
  rw [hsecond] at hkeywords
  rw [hsecond'] at hkeywords'
  have hfinds : ∀ title : Text, Passes {} ["vp".toList] ["sales".toList, "marketing".toList]
      (tokens title) → Finds {} { salesLead with title := title } .valid := by
    intro title hpasses
    refine (finds_valid_iff_of_read hread).mpr ?_
    rwa [hlevels, hkeywords]
  have hstraight : Finds {} { salesLead with title := "VP Sales Marketing" } .valid :=
    hfinds _ ⟨by decide +kernel, by decide +kernel, by decide +kernel, by decide +kernel⟩
  have hjoined : Finds {} { salesLead with
      title := joinWith [' '] (["VP", "sales, marketing"].map String.toList) } .valid :=
    hfinds _ ⟨by decide +kernel, by decide +kernel, by decide +kernel, by decide +kernel⟩
  have hsub : tokens "VP Sales Marketing" ⊆ tokens "Marketing & sales, VP" := by decide +kernel
  have hmore : ["VP", "sales, marketing"].map String.toList
      ⊆ ["Marketing", "sales, marketing", "VP"].map String.toList := by decide
  have hsamelevels : SameTokens (levelValues r) (levelValues r') := by
    intro token
    rw [← mem_tokensOf, ← mem_tokensOf, hlevels, hlevels']
  have hsamewords : SameTokens (keywordValues r) (keywordValues r') := by
    intro token
    rw [← mem_tokensOf, ← mem_tokensOf, hkeywords, hkeywords']
    simp only [List.mem_cons, List.not_mem_nil, or_false]
    exact or_comm
  obtain ⟨htokens, hlisted, hsame⟩ := found_by_token_sets {} salesLead
  exact ⟨⟨hsub, hstraight, htokens _ _ hsub hstraight⟩,
    ⟨hmore, hjoined, hlisted _ _ hmore hjoined⟩,
    ⟨r, r', hread, hread', hsamelevels, hsamewords,
      hsame _ _ r r' hread hread' hsamelevels hsamewords⟩⟩

end LeadScreen.Rule
