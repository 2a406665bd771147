import LeadScreen.Proofs.Rule.Coverage

set_option autoImplicit false

/-! # What a comment on a title says

A title that is found invalid fails one of three checks (`Check`), and the comment says which one
and lists tokens that are missing. `comment_explains` says that the comment is true: its list can be
read back, it holds the first of the tokens that are required and not there, at least one and none
twice, and the checks made before were passed. In particular, where all levels are demanded, what
falls short in the end are keywords.
-/

namespace LeadScreen.Rule

open Text

variable {demand : TitleDemand} {demanded : Binary64} {levels keywords present required : List Text}
  {v : Verdict} {comment token item rest : Text} {items : List Text}

/-! ## Lists in comments -/

/-- The parts of a text between the commas that have a space behind them. -/
def itemsOf : Text → List Text
  | [] => [[]]
  | ',' :: ' ' :: rest => [] :: itemsOf rest
  | c :: rest =>
    match itemsOf rest with
    | [] => [[c]]
    | item :: items => (c :: item) :: items

theorem itemsOf_cons {c : Char} (hc : c ≠ ',') (h : itemsOf rest = item :: items) :
    itemsOf (c :: rest) = (c :: item) :: items := by
  rw [itemsOf, h]
  intro rest' hcomma
  exact absurd hcomma hc

/-- Without commas there is one item. -/
theorem itemsOf_of_not_mem (h : ',' ∉ item) : itemsOf item = [item] := by
  induction item with
  | nil => rfl
  | cons c item ih =>
      have hc : c ≠ ',' := fun hc => h (hc ▸ List.mem_cons_self)
      exact itemsOf_cons hc (ih fun hmem => h (List.mem_cons_of_mem c hmem))

theorem itemsOf_append (h : ',' ∉ item) (rest : Text) :
    itemsOf (item ++ ',' :: ' ' :: rest) = item :: itemsOf rest := by
  induction item with
  | nil => rfl
  | cons c item ih =>
      have hc : c ≠ ',' := fun hc => h (hc ▸ List.mem_cons_self)
      exact itemsOf_cons hc (ih fun hmem => h (List.mem_cons_of_mem c hmem))

/-- **A list in a comment can be read back**, if no item has a comma. -/
theorem itemsOf_joinWith (hne : items ≠ []) (h : ∀ item ∈ items, ',' ∉ item) :
    itemsOf (joinWith ", " items) = items := by
  -- along the items, each of which is cut off at the comma behind it
  induction items with
  | nil => exact absurd rfl hne
  | cons item items ih =>
      have hitem : ',' ∉ item := h item List.mem_cons_self
      cases items with
      | nil => rw [joinWith_singleton, itemsOf_of_not_mem hitem]
      | cons next items =>
          have hrest := ih (List.cons_ne_nil _ _) fun item hmem =>
            h item (List.mem_cons_of_mem _ hmem)
          rw [joinWith_cons_cons]
          exact (itemsOf_append hitem _).trans (congrArg _ hrest)

/-! ## Tokens that are missing -/

/-- No share above one is demanded. -/
structure TitleDemand.Attainable (demand : TitleDemand) : Prop where
  total : (Binary64.ofRatio false 1 1).lt demand.total = false
  levels : (Binary64.ofRatio false 1 1).lt demand.levels = false
  keywords : (Binary64.ofRatio false 1 1).lt demand.keywords = false

theorem mem_lacking : token ∈ lacking required present ↔ token ∈ required ∧ token ∉ present := by
  rw [lacking, List.mem_filter, Bool.not_eq_true', ← Bool.not_eq_true, List.elem_iff]

/-- Something is missing where an attainable share is not reached. -/
theorem FallsShort.lacking_ne_nil (h : FallsShort demanded required present)
    (hdemanded : (Binary64.ofRatio false 1 1).lt demanded = false) :
    lacking required present ≠ [] := by
  obtain ⟨hsome, hlt⟩ := h
  intro hnone
  have hall : (required.countP fun token => present.elem token) = required.length := by
    rw [List.countP_eq_length]
    intro token htoken
    by_contra habsent
    have hmem : token ∈ lacking required present := mem_lacking.mpr ⟨htoken, by simpa using habsent⟩
    rw [hnone] at hmem
    cases hmem
  -- with nothing missing the share is one, and nothing attainable is above it
  rw [shareOf, hall] at hlt
  have hover := Binary64.lt_ofRatio_self (List.length_pos_of_ne_nil hsome) hlt
  rw [hdemanded] at hover
  cases hover

/-- Where all is demanded and enough is there, nothing is missing: all but one of fewer than 2^54
are not enough. -/
theorem le_length_of_mem_lacking (hall : ¬ FallsShort (.ofRatio false 1 1) required present)
    (htoken : token ∈ lacking required present) : 2 ^ 54 ≤ required.length := by
  obtain ⟨hrequired, habsent⟩ := mem_lacking.mp htoken
  have hfew : (required.countP fun token => present.elem token) < required.length := by
    refine lt_of_le_of_ne List.countP_le_length fun heq => habsent ?_
    exact List.elem_iff.mp (List.countP_eq_length.mp heq token hrequired)
  by_contra hmany
  exact hall ⟨List.ne_nil_of_mem hrequired, Binary64.ofRatio_lt_one hfew (not_le.mp hmany)⟩

/-! ## Checks -/

inductive Check where
  | level
  | keyword
  | total
deriving DecidableEq, Repr

variable {check : Check}

namespace Check

def earlier : Check → List Check
  | level => []
  | keyword => [level]
  | total => [level, keyword]

def demands (demand : TitleDemand) : Check → Binary64
  | level => demand.levels
  | keyword => demand.keywords
  | total => demand.total

def requires (levels keywords : List Text) : Check → List Text
  | level => levels
  | keyword => keywords
  | total => (levels ++ keywords).eraseDups

def heading : Check → Text
  | level => "Title missing level terms: "
  | keyword => "Title missing keyword terms: "
  | total => "Title similarity too low ("

/-- What stands between the heading and the list. -/
def figure (share : Binary64) : Check → Text
  | level => []
  | keyword => []
  | total => intText (percent share) ++ "%). Missing: ".toList

/-- The tokens that a comment on the check lists: the first that are missing, as many as the limit
says. -/
def listed (demand : TitleDemand) (levels keywords present : List Text) (check : Check) :
    List Text :=
  let missing := lacking (check.requires levels keywords) present
  missing.take (min demand.listed.toNat missing.length)

theorem demands_attainable (hdemand : demand.Attainable) (check : Check) :
    (Binary64.ofRatio false 1 1).lt (check.demands demand) = false := by
  cases check with
  | level => exact hdemand.levels
  | keyword => exact hdemand.keywords
  | total => exact hdemand.total

/-- What a check requires is asked for. -/
theorem mem_of_mem_requires (h : token ∈ check.requires levels keywords) :
    token ∈ levels ∨ token ∈ keywords := by
  cases check with
  | level => exact Or.inl h
  | keyword => exact Or.inr h
  | total => exact List.mem_append.mp (List.mem_eraseDups.mp h)

/-- Nothing is required twice. -/
theorem nodup_requires (hlevels : levels.Nodup) (hkeywords : keywords.Nodup) (check : Check) :
    (check.requires levels keywords).Nodup := by
  cases check with
  | level => exact hlevels
  | keyword => exact hkeywords
  | total => exact nodup_eraseDups _

theorem mem_lacking_of_mem_listed (h : token ∈ check.listed demand levels keywords present) :
    token ∈ lacking (check.requires levels keywords) present :=
  List.mem_of_mem_take h

/-- A comment begins like a comment on one check only. -/
theorem eq_of_heading {other : Check} (h : check.heading <+: comment)
    (hother : other.heading <+: comment) : check = other := by
  have hunlike : ∀ a b : Check, a.heading <+: b.heading → a = b := by
    intro a b
    cases a <;> cases b <;> decide
  rcases List.prefix_or_prefix_of_prefix h hother with hpre | hpre
  · exact hunlike _ _ hpre
  · exact (hunlike _ _ hpre).symm

theorem not_heading_missing (check : Check) : ¬ check.heading <+: "Missing title".toList := by
  cases check <;> decide

end Check

/-- A check that fails, after others that were passed, with the comment on it. -/
structure FailsAt (demand : TitleDemand) (levels keywords present : List Text) (check : Check)
    (comment : Text) : Prop where
  short : FallsShort (check.demands demand) (check.requires levels keywords) present
  passed : ∀ before ∈ check.earlier,
    ¬ FallsShort (before.demands demand) (before.requires levels keywords) present
  comment_eq : comment = check.heading
    ++ (check.figure (shareOf (check.requires levels keywords) present)
      ++ listing demand.listed (lacking (check.requires levels keywords) present))

/-- Every comment but the one on a missing title is on a check that fails. -/
theorem Decides.exists_failsAt (h : Decides demand levels keywords present v)
    (hcomment : v.comment = some comment) :
    comment = "Missing title" ∨ ∃ check, FailsAt demand levels keywords present check comment := by
  cases h with
  | untitled => exact Or.inl (Option.some.inj hcomment).symm
  | unasked => cases hcomment
  | level _ hshort =>
      obtain rfl := Option.some.inj hcomment
      exact Or.inr ⟨.level, hshort, nofun, rfl⟩
  | keyword _ hlevel hshort =>
      obtain rfl := Option.some.inj hcomment
      refine Or.inr ⟨.keyword, hshort, fun before hbefore => ?_, rfl⟩
      obtain rfl := List.mem_singleton.mp hbefore
      exact hlevel
  | total hall _ hlevel hkeyword hshort =>
      subst hall
      obtain rfl := Option.some.inj hcomment
      refine Or.inr ⟨.total, hshort, fun before hbefore => ?_, ?_⟩
      · simp only [Check.earlier, List.mem_cons, List.not_mem_nil, or_false] at hbefore
        rcases hbefore with rfl | rfl
        · exact hlevel
        · exact hkeyword
      · -- the texts themselves are left alone, which would be computed
        have hassoc : ∀ a b c d : Text, a ++ b ++ c ++ d = a ++ (b ++ c ++ d) := fun a b c d => by
          rw [List.append_assoc, List.append_assoc, List.append_assoc]
        exact hassoc _ _ _ _
  | covered => cases hcomment

/-! ## Comments that explain -/

/-- **A comment explains that a check fails.** -/
structure Explains (demand : TitleDemand) (levels keywords present : List Text) (check : Check)
    (comment : Text) : Prop where
  /-- Behind its heading stands a list that can be read back. -/
  reads : ∃ list : Text, comment = check.heading
      ++ (check.figure (shareOf (check.requires levels keywords) present) ++ list)
    ∧ itemsOf list = check.listed demand levels keywords present
  /-- Something is listed. -/
  some_listed : check.listed demand levels keywords present ≠ []
  /-- Nothing is listed twice. -/
  listed_once : (check.listed demand levels keywords present).Nodup
  /-- The checks before were passed. -/
  passed : ∀ before ∈ check.earlier,
    ¬ FallsShort (before.demands demand) (before.requires levels keywords) present
  /-- Where all levels are demanded, the last check lists none of them. The share of levels is a
  rounded number, and from 2^54 levels on, no sooner, all but one of them are rounded to all
  (`Binary64.ofRatio_pred_lt_one_iff`). -/
  spares_levels : check = .total → demand.levels = .ofRatio false 1 1 →
    ∀ token ∈ check.listed demand levels keywords present, token ∈ levels → 2 ^ 54 ≤ levels.length

/-- Where no token has to be left out, the first that are listed are the first there are. -/
theorem firstListed_eq_take {limit : Int} (h : 0 ≤ limit) (tokens : List Text) :
    firstListed limit tokens = tokens.take (min limit.toNat tokens.length) := by
  rw [firstListed, if_pos h]
  exact List.take_eq_take_min

/-- **A comment on a check that fails explains it.** -/
theorem FailsAt.explains (h : FailsAt demand levels keywords present check comment)
    (hdemand : demand.Attainable) (hlisted : 1 ≤ demand.listed) (hlevels : levels.Nodup)
    (hkeywords : keywords.Nodup)
    (hcomma : ∀ token, token ∈ levels ∨ token ∈ keywords → ',' ∉ token) :
    Explains demand levels keywords present check comment := by
  have hsome : check.listed demand levels keywords present ≠ [] := by
    have hmissing := h.short.lacking_ne_nil (check.demands_attainable hdemand)
    have hlength := List.length_pos_of_ne_nil hmissing
    intro hnone
    rcases List.take_eq_nil_iff.mp hnone with hzero | hempty
    · omega
    · exact hmissing hempty
  have hitems : ∀ token ∈ check.listed demand levels keywords present, ',' ∉ token := by
    intro token htoken
    have hrequired := (mem_lacking.mp (Check.mem_lacking_of_mem_listed htoken)).1
    exact hcomma token (Check.mem_of_mem_requires hrequired)
  constructor
  case reads =>
    refine ⟨listing demand.listed (lacking (check.requires levels keywords) present),
      h.comment_eq, ?_⟩
    rw [listing, firstListed_eq_take (by omega)]
    exact itemsOf_joinWith hsome hitems
  case some_listed => exact hsome
  case listed_once =>
    have hnodup := check.nodup_requires hlevels hkeywords
    exact (hnodup.sublist List.filter_sublist).sublist (List.take_sublist _ _)
  case passed => exact h.passed
  case spares_levels =>
    rintro rfl hall token htoken hlevel
    -- the levels were passed before, so that one is missing only if the share is rounded up
    have hpassed : ¬ FallsShort demand.levels levels present :=
      h.passed .level List.mem_cons_self
    rw [hall] at hpassed
    have habsent := (mem_lacking.mp (Check.mem_lacking_of_mem_listed htoken)).2
    exact le_length_of_mem_lacking hpassed (mem_lacking.mpr ⟨hlevel, habsent⟩)

/-- Tokens have no commas. -/
theorem comma_not_mem {values : List Text} (h : token ∈ tokensOf values) : ',' ∉ token := by
  obtain ⟨value, -, hmem⟩ := List.mem_flatMap.mp (mem_tokensOf.mp h)
  intro hcomma
  exact absurd ((mem_tokens hmem).2 ',' hcomma) (by decide)

theorem nodup_tokensOf (values : List Text) : (tokensOf values).Nodup := by
  rw [tokensOf, distinct_eq_eraseDups]
  exact nodup_eraseDups _

/-- **Comments on titles explain.** Where no share above one is demanded and at least one token is
to be listed, a comment with the heading of a check is on a requisition that was read, and it
explains that the check fails: behind the heading stand the first of the tokens that are required
and not in the title. -/
theorem comment_explains (demand : TitleDemand) (hdemand : demand.Attainable)
    (hlisted : 1 ≤ demand.listed) (lead : Lead) (v : Verdict) (hv : title demand lead = .ok v)
    (comment : Text) (hcomment : v.comment = some comment) (check : Check)
    (hcheck : check.heading <+: comment) :
    ∃ r, Requisition.read lead.req = .ok r
      ∧ Explains demand (tokensOf (levelValues r)) (tokensOf (keywordValues r))
        (Text.tokens lead.title) check comment := by
  have hnot : comment ≠ "Missing title" := by
    rintro rfl
    exact check.not_heading_missing hcheck
  rcases decides_of_title hv with rfl | ⟨r, hread, hdecides⟩
  · exact absurd (Option.some.inj hcomment).symm hnot
  · obtain hmissing | ⟨fails, hfails⟩ := hdecides.exists_failsAt hcomment
    · exact absurd hmissing hnot
    · -- the check that fails is the one that the heading tells
      have hheading : fails.heading <+: comment := ⟨_, hfails.comment_eq.symm⟩
      obtain rfl := Check.eq_of_heading hcheck hheading
      refine ⟨r, hread, hfails.explains hdemand hlisted (nodup_tokensOf _) (nodup_tokensOf _) ?_⟩
      rintro token (hlevel | hkeyword)
      · exact comma_not_mem hlevel
      · exact comma_not_mem hkeyword

def dataLead : Lead :=
  { title := "VP Data", req := titleRequest "VP" "Data, Analytics, Platform" }

/-- The level and one of three keywords are there, which is not enough in all. -/
theorem comment_explains_similarity :
    TitleDemand.Attainable {} ∧ 1 ≤ ({} : TitleDemand).listed
      ∧ title {} dataLead
        = .ok (.invalid "Title similarity too low (50%). Missing: analytics, platform")
      ∧ Check.total.heading <+: "Title similarity too low (50%). Missing: analytics, platform".toList
      ∧ ∃ r, Requisition.read dataLead.req = .ok r
        ∧ Explains {} (tokensOf (levelValues r)) (tokensOf (keywordValues r))
          (tokens dataLead.title) .total
          "Title similarity too low (50%). Missing: analytics, platform" := by
  have hdemand : TitleDemand.Attainable {} := ⟨by decide, by decide, by decide⟩
  have hlisted : 1 ≤ ({} : TitleDemand).listed := by decide
  have hwanted : Markup.Unmarked "VP".toList := ⟨by decide, by decide⟩
  have hwords : Markup.Unmarked "Data, Analytics, Platform".toList := ⟨by decide, by decide⟩
  obtain ⟨r, hread, hlevels, hkeywords⟩ := exists_requires_titleRequest hwanted hwords (by decide)
  have hlevel : (tokens "VP").eraseDups = ["vp".toList] := by decide +kernel
  have hkeyword : (tokens "Data, Analytics, Platform").eraseDups
      = ["data".toList, "analytics".toList, "platform".toList] := by decide +kernel
  have htitle : title {} dataLead
      = .ok (.invalid "Title similarity too low (50%). Missing: analytics, platform") := by
    rw [hlevel, levelValues] at hlevels
    rw [hkeyword, keywordValues] at hkeywords
    rw [title_of_titled (by decide +kernel), dataLead, hread]
    dsimp only
    rw [hlevels, hkeywords]
    decide +kernel
  have hheading : Check.total.heading
      <+: "Title similarity too low (50%). Missing: analytics, platform".toList := by decide
  exact ⟨hdemand, hlisted, htitle, hheading,
    comment_explains {} hdemand hlisted dataLead _ htitle _ rfl .total hheading⟩

end LeadScreen.Rule
