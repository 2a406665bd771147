import LeadScreen.Proofs.Rule.Coverage

set_option autoImplicit false

/-! # Requirements that are ignored

A requisition may state what it wants of titles and have it ignored: a title passes that has nothing
in common with it. Where a share of all tokens is demanded, as it is by default, this happens to
requirements without tokens and to no others (`ignores_iff`). Requirements in a script other than
the Latin one have none, so that any title is valid by them (`foreign_level_ignored`).
-/

namespace LeadScreen.Rule

open Text

variable {demand : TitleDemand} {demanded : Binary64} {levels keywords present required : List Text}
  {r : Requisition} {token : Text}

/-! ## Tokens in common -/

/-- No share of tokens is a share of zero. -/
theorem shareOf_eq_zero (h : ∀ token ∈ required, token ∉ present) :
    shareOf required present = .zero false := by
  have hnone : (required.countP fun token => present.elem token) = 0 := by
    refine List.countP_eq_zero.mpr fun token htoken hpresent => ?_
    exact h token htoken (List.elem_iff.mp hpresent)
  rw [shareOf, hnone, Binary64.ofRatio, if_pos rfl]

/-- What does not fall short of a positive share has a token in common with those required. -/
theorem exists_mem_of_not_fallsShort (hpos : (Binary64.zero false).lt demanded = true)
    (hsome : required ≠ []) (h : ¬ FallsShort demanded required present) :
    ∃ token ∈ required, token ∈ present := by
  by_contra hforeign
  push Not at hforeign
  refine h ⟨hsome, ?_⟩
  rw [shareOf_eq_zero hforeign]
  exact hpos

/-- By a requisition that requires no tokens, titles pass as soon as they are there. -/
theorem passes_nil_iff : Passes demand [] [] present ↔ IsTitled demand present :=
  ⟨fun h => h.titled, fun htitled =>
    ⟨htitled, fun hshort => hshort.1 rfl, fun hshort => hshort.1 rfl, fun hshort => hshort.1 rfl⟩⟩

/-! ## Requirements that are stated -/

/-- What a requisition states of titles: levels and keywords. -/
def statedValues (r : Requisition) : List Text :=
  levelValues r ++ keywordValues r

/-- The tokens required are those of what is stated. -/
theorem mem_required_iff :
    token ∈ (tokensOf (levelValues r) ++ tokensOf (keywordValues r)).eraseDups
      ↔ token ∈ (statedValues r).flatMap tokens := by
  rw [List.mem_eraseDups, List.mem_append, mem_tokensOf, mem_tokensOf, statedValues,
    List.flatMap_append, List.mem_append]

theorem required_eq_nil_iff :
    (tokensOf (levelValues r) ++ tokensOf (keywordValues r)).eraseDups = []
      ↔ ∀ value ∈ statedValues r, tokens value = [] := by
  rw [← List.flatMap_eq_nil_iff, List.eq_nil_iff_forall_not_mem, List.eq_nil_iff_forall_not_mem]
  exact forall_congr' fun token => not_congr mem_required_iff

/-- **What is stated is ignored**: the title is found valid with no token in common with it. -/
structure Ignores (demand : TitleDemand) (lead : Lead) (r : Requisition) : Prop where
  stated : statedValues r ≠ []
  found : Finds demand lead .valid
  foreign : ∀ token ∈ (statedValues r).flatMap tokens, token ∉ tokens lead.title

/-- **Exactly requirements without tokens are ignored.** If any positive share of all tokens is
demanded, what a requisition states of titles is ignored exactly if the title is there, should it
have to be, and no character of what is stated gives a token. -/
theorem ignores_iff (demand : TitleDemand) (hpos : (Binary64.zero false).lt demand.total = true)
    (lead : Lead) (r : Requisition) (hread : Requisition.read lead.req = .ok r) :
    Ignores demand lead r ↔ statedValues r ≠ [] ∧ IsTitled demand (tokens lead.title)
      ∧ ∀ value ∈ statedValues r, ∀ c ∈ value, givesToken c = false := by
  have hfound := @finds_valid_iff_of_read demand lead r hread
  have hsilent : (∀ value ∈ statedValues r, ∀ c ∈ value, givesToken c = false)
      ↔ (tokensOf (levelValues r) ++ tokensOf (keywordValues r)).eraseDups = [] := by
    rw [required_eq_nil_iff]
    exact forall₂_congr fun value _ => tokens_eq_nil_iff.symm
  rw [hsilent]
  constructor
  · rintro ⟨hstated, hvalid, hforeign⟩
    have hpasses := hfound.mp hvalid
    refine ⟨hstated, hpasses.titled, ?_⟩
    -- if a token were required, a title that passes would have one of those required
    by_contra hsome
    obtain ⟨token, hrequired, hpresent⟩ :=
      exists_mem_of_not_fallsShort hpos hsome hpasses.total
    exact hforeign token (mem_required_iff.mp hrequired) hpresent
  · rintro ⟨hstated, htitled, hnone⟩
    -- the rule takes what has no tokens for nothing at all
    have hlevels : tokensOf (levelValues r) = [] :=
      (List.append_eq_nil_iff.mp (eraseDups_eq_nil_iff.mp hnone)).1
    have hkeywords : tokensOf (keywordValues r) = [] :=
      (List.append_eq_nil_iff.mp (eraseDups_eq_nil_iff.mp hnone)).2
    refine ⟨hstated, hfound.mpr ?_, fun token htoken => ?_⟩
    · rw [hlevels, hkeywords]
      exact passes_nil_iff.mpr htitled
    · rw [← mem_required_iff, hnone] at htoken
      cases htoken

/-- A level that has a token is not ignored. -/
theorem ignores_iff_of_level :
    (Binary64.zero false).lt ({} : TitleDemand).total = true
      ∧ ∃ r, Requisition.read salesLead.req = .ok r ∧ ¬ Ignores {} salesLead r := by
  have hwanted : Markup.Unmarked "VP".toList := ⟨by decide, by decide⟩
  have hwords : Markup.Unmarked "Sales, Marketing".toList := ⟨by decide, by decide⟩
  have hpos : (Binary64.zero false).lt ({} : TitleDemand).total = true := by decide +kernel
  obtain ⟨r, hread, hlevels, -⟩ := exists_requires_titleRequest hwanted hwords (by decide)
  refine ⟨hpos, r, hread, fun hignores => ?_⟩
  obtain ⟨-, -, hsilent⟩ := (ignores_iff {} hpos salesLead r hread).mp hignores
  have hvp : "vp".toList ∈ tokensOf (levelValues r) := by
    rw [hlevels]
    decide +kernel
  obtain ⟨value, hvalue, hmem⟩ := List.mem_flatMap.mp (mem_tokensOf.mp hvp)
  rw [tokens_eq_nil_iff.mpr (hsilent value (List.mem_append_left _ hvalue))] at hmem
  cases hmem

/-- A lead whose requisition asks for heads of department in Japanese. -/
def foreignLead : Lead :=
  { title := "Engineer", req := "| comments: <p>Titles:</p><p>Job Levels: 部長</p>" }

/-- The requisition asks for a level, the title has nothing in common with it, and is valid. -/
theorem foreign_level_ignored :
    ∃ r, Requisition.read foreignLead.req = .ok r ∧ levelValues r = ["部長".toList]
      ∧ title {} foreignLead = .ok .valid
      ∧ ∀ token ∈ (statedValues r).flatMap tokens, token ∉ tokens foreignLead.title := by
  have hreq : foreignLead.req
      = "| comments: ".toList ++ Markup.paragraphs ["Titles:", "Job Levels: 部長"] := by
    decide +kernel
  have hlines : ∀ line ∈ (["Titles:", "Job Levels: 部長"] : List Text), Markup.Unmarked line := by
    intro line hline
    simp only [List.mem_cons, List.not_mem_nil, or_false] at hline
    rcases hline with rfl | rfl
    · exact ⟨by decide, by decide⟩
    · exact ⟨by decide, by decide⟩
  have hread : Requisition.read foreignLead.req
      = .ok ⟨[], Classifier.classify
        ((["Titles:", "Job Levels: 部長"] : List Text).map cleanNode)⟩ := by
    rw [hreq]
    exact read_marked_paragraphs (List.cons_ne_nil _ _) hlines
  refine ⟨_, hread, ?_, ?_, ?_⟩
  · decide +kernel
  · rw [title_of_titled (by decide +kernel), hread]
    decide +kernel
  · decide +kernel

end LeadScreen.Rule
