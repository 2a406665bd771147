import LeadScreen.Proofs.Classifier.Comments
import LeadScreen.Proofs.Rule.Coverage

set_option autoImplicit false

/-! # What is required, however it is stored

On their way into the comments values are cut at commas or kept whole, as their key has it, trimmed,
and left out when they are empty or there already. The tokens that a title is asked for come to the
same, and in the same order: as if all values had been written one behind the other
(`required_however_stored`). So it makes no difference to a title under what kind of key a
requisition states its levels and keywords.
-/

namespace LeadScreen.Rule

open Text

variable {values others : List Text} {c : Comments} {s : Section} {key t : Text}

/-! ## The tokens of values -/

theorem tokensOf_eq_eraseDups (values : List Text) :
    tokensOf values = (values.flatMap tokens).eraseDups :=
  distinct_eq_eraseDups _

/-- What is added to values adds the same tokens to what has the same tokens. -/
theorem tokensOf_append_congr (h : tokensOf values = tokensOf others) (more : List Text) :
    tokensOf (values ++ more) = tokensOf (others ++ more) := by
  rw [tokensOf_eq_eraseDups, tokensOf_eq_eraseDups] at h
  rw [tokensOf_eq_eraseDups, tokensOf_eq_eraseDups, List.flatMap_append, List.flatMap_append]
  exact eraseDups_append_congr h _

/-- Values may be cut up, as long as no token is. -/
theorem tokensOf_flatMap {f : Text → List Text} (hf : ∀ t, (f t).flatMap tokens = tokens t)
    (values : List Text) : tokensOf (values.flatMap f) = tokensOf values := by
  rw [tokensOf_eq_eraseDups, tokensOf_eq_eraseDups, List.flatMap_assoc]
  exact congrArg (fun g : Text → List Text => (values.flatMap g).eraseDups) (funext hf)

/-- **Pushing loses no token.** Only blanks, empty values and repetitions are left out. -/
theorem tokensOf_pushValues (items values : List Text) :
    tokensOf (Comments.pushValues items values) = tokensOf (items ++ values) := by
  calc tokensOf (Comments.pushValues items values)
      = (((tidy values).foldl pushNew items).eraseDups.flatMap tokens).eraseDups := by
        rw [tokensOf_eq_eraseDups, Comments.pushValues_eq_foldl, eraseDups_flatMap_eraseDups]
    _ = ((items ++ tidy values).flatMap tokens).eraseDups := by
        rw [eraseDups_foldl_pushNew, eraseDups_flatMap_eraseDups]
    _ = tokensOf (items ++ values) := by
        rw [tokensOf_eq_eraseDups, List.flatMap_append, List.flatMap_append, flatMap_tokens_tidy]

/-- **Joining values adds no token and joins none.** -/
theorem tokens_joined (values : List Text) :
    (tokens (joinWith ", " values)).eraseDups = tokensOf values := by
  have hcomma : ", ".toList = [',', ' '] := by decide
  have hgap : ∀ c ∈ [',', ' '], tokenView c = [' '] := by
    intro c hc
    rcases List.mem_cons.mp hc with rfl | hspace
    · decide +kernel
    · rw [List.mem_singleton.mp hspace]
      decide +kernel
  rw [tokensOf_eq_eraseDups, hcomma, tokens_joinWith_gap (List.cons_ne_nil _ _) hgap]

/-! ## Values in comments -/

/-- The comments when texts were taken up in order, each as the values of the key in the section. -/
def takeUp (c : Comments) (s : Section) (key : Text) (texts : List Text) : Comments :=
  texts.foldl (fun c t => c.push s key (valuesFor key t)) c

/-- **The list of a key has the tokens of the texts that were taken up for it**, whether the key has
several values or one, behind those of what it held before. -/
theorem tokensOf_takeUp (c : Comments) (s : Section) (key : Text) (texts : List Text) :
    tokensOf ((takeUp c s key texts).values s key) = tokensOf (c.values s key ++ texts) := by
  -- text by text, with the comments as they are before each
  induction texts generalizing c with
  | nil => rw [List.append_nil]; rfl
  | cons t texts ih =>
      have hpush : tokensOf ((c.push s key (valuesFor key t)).values s key)
          = tokensOf (c.values s key ++ [t]) := by
        rw [Comments.values_push, if_pos ⟨rfl, rfl⟩, tokensOf_pushValues, tokensOf_eq_eraseDups,
          tokensOf_eq_eraseDups, List.flatMap_append, List.flatMap_append,
          flatMap_tokens_valuesFor, List.flatMap_singleton]
      calc tokensOf ((takeUp c s key (t :: texts)).values s key)
          = tokensOf ((c.push s key (valuesFor key t)).values s key ++ texts) := ih _
        _ = tokensOf (c.values s key ++ [t] ++ texts) := tokensOf_append_congr hpush texts
        _ = tokensOf (c.values s key ++ t :: texts) := by
            rw [List.append_assoc, List.singleton_append]

/-- **What is required does not depend on how it is stored.** The tokens of values are those of the
list that comes of cutting every value at its commas and pushing the pieces, and those of the values
written one behind the other with commas between them, each once. So are the tokens of the list that
stands in the comments when the values were taken up under a key, whatever the key does with them;
and where a requisition has its levels and its keywords in such lists, titles are decided by the
tokens of the levels and keywords that were taken up. -/
theorem required_however_stored (values : List Text) :
    tokensOf (Comments.pushValues [] (values.flatMap commaValues)) = tokensOf values
      ∧ (tokens (joinWith ", " values)).eraseDups = tokensOf values
      ∧ (∀ s key, tokensOf ((takeUp [] s key values).values s key) = tokensOf values)
      ∧ ∀ (demand : TitleDemand) (lead : Lead) (r : Requisition) (key key' : Text)
          (keywords : List Text), Requisition.read lead.req = .ok r →
          levelValues r = (takeUp [] .titles key values).values .titles key →
          keywordValues r = (takeUp [] .titles key' keywords).values .titles key' →
          ∀ v, title demand lead = .ok v
            ↔ Decides demand (tokensOf values) (tokensOf keywords) (tokens lead.title) v := by
  have hstored : ∀ s key (values : List Text),
      tokensOf ((takeUp [] s key values).values s key) = tokensOf values :=
    fun s key values => tokensOf_takeUp [] s key values
  refine ⟨?_, tokens_joined values, fun s key => hstored s key values, ?_⟩
  · rw [tokensOf_pushValues, List.nil_append, tokensOf_flatMap flatMap_tokens_commaValues]
  · intro demand lead r key key' keywords hread hlevels hkeywords v
    rw [title_eq_ok_iff hread, ← hstored .titles key values, ← hstored .titles key' keywords,
      ← hlevels, ← hkeywords]
    rfl

/-- The lines of a requisition that states levels in one line and keywords in two. -/
def boardLines : List Text :=
  ["Titles:", "Job Levels: Sr. VP, VP", "Keywords: Sales, IT", "Keywords: it, Marketing"]

def boardLead : Lead :=
  { title := "Sr. VP, IT & Marketing"
    req := "| comments: ".toList ++ Markup.paragraphs boardLines }

/-- Levels are kept in one piece and keywords are cut, and the repeated one is dropped. -/
theorem required_however_stored_of_repeated_label :
    ∃ r, Requisition.read boardLead.req = .ok r
      ∧ levelValues r = (takeUp [] .titles "job_levels" ["Sr. VP, VP"]).values .titles "job_levels"
      ∧ keywordValues r = (takeUp [] .titles "keywords" ["Sales, IT", "it, Marketing"]).values
        .titles "keywords"
      ∧ title {} boardLead = .ok .valid := by
  have hlines : ∀ line ∈ boardLines, Markup.Unmarked line := by
    intro line hline
    simp only [boardLines, List.mem_cons, List.not_mem_nil, or_false] at hline
    rcases hline with rfl | rfl | rfl | rfl
    · exact ⟨by decide, by decide⟩
    · exact ⟨by decide, by decide⟩
    · exact ⟨by decide, by decide⟩
    · exact ⟨by decide, by decide⟩
  have hread := read_marked_paragraphs (List.cons_ne_nil _ _) hlines
  obtain ⟨-, -, -, hdecided⟩ := required_however_stored ["Sr. VP, VP".toList]
  refine ⟨_, hread, by decide +kernel, by decide +kernel, ?_⟩
  refine (hdecided {} boardLead _ "job_levels" "keywords" ["Sales, IT", "it, Marketing"] hread
    (by decide +kernel) (by decide +kernel) .valid).mpr ?_
  exact .covered rfl (by decide +kernel) (by decide +kernel) (by decide +kernel) (by decide +kernel)

end LeadScreen.Rule
