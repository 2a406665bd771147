import LeadScreen.Proofs.Classifier.Grouping
import LeadScreen.Proofs.Requisition.Layout
import LeadScreen.Proofs.Text.Token

set_option autoImplicit false

/-! # Terms under a label

What is asked of a title stands in paragraphs of its section, each a label, a colon and the terms.
The terms take different ways from there: some keys keep them whole and some cut them at commas,
repetitions are dropped, and blank terms leave the label waiting. To tokens it is all one:
whatever its key, a labelled text gives its tokens (`exists_reads_labelled`), and so the levels and
the keywords of `titleRequest` have the tokens that were written there
(`exists_read_titleRequest`).
-/

namespace LeadScreen

open Text Classifier

variable {label t levels keywords : Text} {s : Section}

/-- Cleaning a node leaves its tokens. -/
@[simp] theorem tokens_cleanNode (t : Text) : tokens (cleanNode t) = tokens t := by
  have hview : ∀ c, tokenView (spaced c) = tokenView c := by
    intro c
    unfold spaced
    split
    · rename_i hc
      rw [hc, tokenView_of_isBlank (by decide), tokenView_of_isBlank (by decide)]
    · rfl
  rw [cleanNode_eq_trim, tokens_trim, tokens_map hview]

/-! ## Labels -/

/-- **A label**: a text with a key that names no section. No colon is in it, and it starts with
neither a blank nor a digit. -/
structure IsLabel (label : Text) : Prop where
  starts : ∀ c ∈ label.head?, isBlank c = false ∧ isDigit c = false
  spelled : ∀ c ∈ label, c ≠ ':' ∧ c ≠ '\u00A0'
  named : label.key ≠ []
  free : ∀ s : Section, label.key ≠ s.name

namespace IsLabel

theorem of_all (hstart : ∃ c ∈ label.head?, isBlank c = false ∧ isDigit c = false)
    (hall : (label.all fun c => c != ':' && c != '\u00A0') = true) (hnamed : label.key ≠ [])
    (hfree : ∀ s : Section, label.key ≠ s.name) : IsLabel label where
  starts := by
    obtain ⟨d, hd, hsolid⟩ := hstart
    intro c hc
    rwa [Option.mem_unique hc hd]
  spelled := by
    intro c hc
    simpa using List.all_eq_true.mp hall c hc
  named := hnamed
  free := hfree

theorem exists_eq_cons (h : IsLabel label) :
    ∃ c rest, label = c :: rest ∧ isBlank c = false ∧ isDigit c = false := by
  cases label with
  | nil => exact absurd rfl h.named
  | cons c rest => exact ⟨c, rest, rfl, h.starts c rfl⟩

/-- The node of a labelled text is the label, a colon and what is left of the text. -/
theorem exists_cleanNode_eq (h : IsLabel label) (t : Text) :
    ∃ after : Text, cleanNode (label ++ ':' :: t) = label ++ ':' :: after
      ∧ after.trim = cleanNode t := by
  obtain ⟨c, rest, hcons, hblank, -⟩ := h.exists_eq_cons
  have hlabel : label.map spaced = label := by
    conv_rhs => rw [← List.map_id label]
    exact List.map_congr_left fun d hd => if_neg (h.spelled d hd).2
  have hstart : trimStart (label ++ ':' :: t.map spaced) = label ++ ':' :: t.map spaced := by
    refine dropWhile_eq_self fun d hd => ?_
    rw [hcons] at hd
    exact Option.some.inj hd ▸ hblank
  refine ⟨trimEnd (t.map spaced), ?_, trim_trimEnd _⟩
  calc cleanNode (label ++ ':' :: t)
      = trim (label.map spaced ++ ':' :: t.map spaced) := by
        rw [cleanNode_eq_trim, List.map_append]
        rfl
    _ = trimEnd (label ++ ':' :: t.map spaced) := by rw [hlabel, trim, hstart]
    _ = label ++ ':' :: trimEnd (t.map spaced) := trimEnd_append_cons (by decide) _ _

/-- A labelled text is a line with the label before its first colon. -/
theorem exists_line (h : IsLabel label) (t : Text) :
    ∃ line after : Text, (cleanNode (label ++ ':' :: t)).trim ≠ []
      ∧ LineOf (cleanNode (label ++ ':' :: t)) line
      ∧ Pair line label after ∧ after.trim = cleanNode t := by
  obtain ⟨c, rest, hcons, hblank, hdigit⟩ := h.exists_eq_cons
  obtain ⟨after, hnode, hafter⟩ := h.exists_cleanNode_eq t
  have htrim : (cleanNode (label ++ ':' :: t)).trim = cleanNode (label ++ ':' :: t) := trim_trim _
  have hne : cleanNode (label ++ ':' :: t) ≠ [] := by
    rw [hnode]
    exact List.append_ne_nil_of_right_ne_nil _ (List.cons_ne_nil _ _)
  have hplain : ∀ behind, ¬ Numbered (cleanNode (label ++ ':' :: t)) behind := by
    rintro behind ⟨digits, hdigits, hall, hnumber⟩
    -- the node starts as the label does, and so not with a digit
    obtain ⟨d, digits, rfl⟩ := List.exists_cons_of_ne_nil hdigits
    rw [hnode, hcons, trimStart, List.cons_append, List.dropWhile_cons, hblank,
      if_neg Bool.false_ne_true] at hnumber
    have hcd : c = d := (List.cons.inj hnumber).1
    rw [hcd, hall d List.mem_cons_self] at hdigit
    cases hdigit
  refine ⟨cleanNode (label ++ ':' :: t), after, by rwa [htrim], ?_, ?_, hafter⟩
  · have hline := LineOf.plain hplain
    rwa [htrim] at hline
  · exact ⟨hnode, fun hmem => (h.spelled ':' hmem).1 rfl⟩

end IsLabel

/-- Whatever the key of a label does with the text behind it, what it gives has the tokens of the
text. Only a blank text leaves the label waiting. -/
theorem exists_reads_labelled (h : IsLabel label) (s : Section) (t : Text) :
    ∃ q e, Reads ⟨s, none⟩ (cleanNode (label ++ ':' :: t)) q e
      ∧ (t.trim ≠ [] → q = ⟨s, none⟩)
      ∧ ∀ s' key, (collected e.entry?.toList s' key).flatMap tokens
        = if s = s' ∧ label.key = key then tokens t else [] := by
  obtain ⟨line, after, hne, hline, hpair, hafter⟩ := h.exists_line t
  by_cases ht : t.trim = []
  · have hnil : after.trim = [] := by rw [hafter, cleanNode_eq_nil_iff.mpr ht]
    have hopens : ∀ s', ¬ Opens s' label after := by
      rintro s' hs'
      cases hs' with
      | header _ hkey _ => exact h.free s' hkey
      | custom hkey => exact h.free _ hkey
    have htokens : tokens t = [] := by
      rw [← tokens_trim, ht]
      rfl
    refine ⟨_, _, .line hne rfl hline (.waiting hpair h.named hopens hnil),
      fun hnot => absurd ht hnot, fun s' key => ?_⟩
    rw [htokens, ite_self]
    rfl
  · have hvalue : after.trim ≠ [] := by
      rw [hafter]
      exact fun hnil => ht (cleanNode_eq_nil_iff.mp hnil)
    refine ⟨_, _, .line hne rfl hline (.keyed hpair h.named (h.free _) hvalue), fun _ => rfl,
      fun s' key => ?_⟩
    by_cases hplace : s = s' ∧ label.key = key
    · have hvalues : collected [⟨s, label.key, valuesFor label.key after.trim⟩] s' key
          = valuesFor label.key after.trim := by
        simp [collected, hplace]
      rw [if_pos hplace, ← tokens_cleanNode t, ← hafter, ← flatMap_tokens_valuesFor label.key]
      exact congrArg (List.flatMap tokens) hvalues
    · rw [if_neg hplace]
      simp [Effect.entry?, collected, hplace]

/-! ## The request -/

/-- **A requisition that asks for titles**, of job levels and with keywords. -/
def titleRequest (levels keywords : Text) : Text :=
  "| comments: <p>Titles:</p><p>Job Levels: ".toList ++ levels
    ++ "</p><p>Keywords: ".toList ++ keywords ++ "</p>".toList

def titleLines (levels keywords : Text) : List Text :=
  ["Titles:", "Job Levels".toList ++ ':' :: ' ' :: levels,
    "Keywords".toList ++ ':' :: ' ' :: keywords]

theorem titleRequest_eq (levels keywords : Text) :
    titleRequest levels keywords
      = "| comments: ".toList ++ Markup.paragraphs (titleLines levels keywords) := by
  have hhead : "| comments: <p>Titles:</p><p>Job Levels: ".toList
      = "| comments: ".toList ++ ("<p>".toList ++ "Titles:".toList ++ "</p>".toList)
        ++ ("<p>".toList ++ ("Job Levels".toList ++ [':', ' '])) := by decide +kernel
  have hnext : "</p><p>Keywords: ".toList
      = "</p>".toList ++ ("<p>".toList ++ ("Keywords".toList ++ [':', ' '])) := by decide +kernel
  have hlines : titleLines levels keywords
      = ["Titles:".toList, "Job Levels".toList ++ [':', ' '] ++ levels,
        "Keywords".toList ++ [':', ' '] ++ keywords] := by
    rw [List.append_assoc, List.append_assoc]
    rfl
  calc titleRequest levels keywords
      = "| comments: ".toList ++ ("<p>".toList ++ "Titles:".toList ++ "</p>".toList)
          ++ ("<p>".toList ++ ("Job Levels".toList ++ [':', ' '])) ++ levels
          ++ ("</p>".toList ++ ("<p>".toList ++ ("Keywords".toList ++ [':', ' '])))
          ++ keywords ++ "</p>".toList :=
        congrArg₂ (fun head next => head ++ levels ++ next ++ keywords ++ "</p>".toList) hhead hnext
    _ = "| comments: ".toList ++ Markup.paragraphs (titleLines levels keywords) := by
        rw [hlines, Markup.paragraphs, List.flatMap_cons, List.flatMap_cons, List.flatMap_cons,
          List.flatMap_nil]
        simp only [List.append_assoc, List.append_nil]

/-- Comments behind a marker that comes first, with no terms before it. -/
theorem read_marked (htrim : trim t = t) (hne : t ≠ []) :
    Requisition.read ("| comments: ".toList ++ t)
      = (Requisition.readComments t).map fun comments => ⟨[], comments⟩ := by
  have hsplit : Requisition.splitAtMarker ("| comments: ".toList ++ t) = ([], some (' ' :: t)) :=
    rfl
  have hnarrative : trim ((some (' ' :: t)).getD []) = t := htrim
  have hsome : t.isEmpty = false := List.isEmpty_eq_false_iff.mpr hne
  rw [Requisition.read, hsplit]
  dsimp only
  rw [hnarrative, hsome]
  rfl

/-- Paragraphs begin and end in a bracket. -/
theorem trim_paragraphs (ls : List Text) :
    trim (Markup.paragraphs ls) = Markup.paragraphs ls := by
  have hlast : ∀ ls, ∀ c ∈ (Markup.paragraphs ls).getLast?, c = '>' := by
    intro ls
    induction ls with
    | nil =>
        intro c hc
        cases hc
    | cons line ls ih =>
        intro c hc
        rw [Markup.paragraphs, List.flatMap_cons, List.getLast?_append, ← Markup.paragraphs] at hc
        cases hrest : (Markup.paragraphs ls).getLast? with
        | none =>
            rw [hrest, List.getLast?_append] at hc
            exact (Option.some.inj hc).symm
        | some d =>
            rw [hrest] at hc
            exact ih c (hrest.trans hc)
  refine stripWhere_eq_self_iff.mpr ⟨fun c hc => ?_, fun c hc => ?_⟩
  · cases ls with
    | nil => cases hc
    | cons line ls =>
        obtain rfl : '<' = c := Option.some.inj hc
        decide
  · rw [hlast ls c hc]
    decide

/-- Of comments in paragraphs, each paragraph is a node. -/
theorem read_marked_paragraphs {lines : List Text} (hne : lines ≠ [])
    (hlines : ∀ line ∈ lines, Markup.Unmarked line) :
    Requisition.read ("| comments: ".toList ++ Markup.paragraphs lines)
      = .ok ⟨[], classify (lines.map cleanNode)⟩ := by
  have hsome : Markup.paragraphs lines ≠ [] := by
    obtain ⟨line, rest, rfl⟩ := List.exists_cons_of_ne_nil hne
    exact List.cons_ne_nil _ _
  rw [read_marked (trim_paragraphs lines) hsome, Requisition.readComments,
    commentNodes_paragraphs hlines]
  rfl

theorem isLabel_jobLevels : IsLabel "Job Levels".toList :=
  .of_all ⟨'J', rfl, by decide, by decide⟩ (by decide +kernel) (by decide +kernel)
    (by intro s; cases s <;> decide +kernel)

theorem isLabel_keywords : IsLabel "Keywords".toList :=
  .of_all ⟨'K', rfl, by decide, by decide⟩ (by decide +kernel) (by decide +kernel)
    (by intro s; cases s <;> decide +kernel)

theorem unmarked_titleLines (hlevels : Markup.Unmarked levels)
    (hkeywords : Markup.Unmarked keywords) :
    ∀ line ∈ titleLines levels keywords, Markup.Unmarked line := by
  have htitles : Markup.Unmarked "Titles:".toList := ⟨by decide, by decide⟩
  have hjobs : Markup.Unmarked "Job Levels: ".toList := ⟨by decide, by decide⟩
  have hwords : Markup.Unmarked "Keywords: ".toList := ⟨by decide, by decide⟩
  intro line hline
  simp only [titleLines, List.mem_cons, List.not_mem_nil, or_false] at hline
  rcases hline with rfl | rfl | rfl
  · exact htitles
  · exact hjobs.append hlevels
  · exact hwords.append hkeywords

/-- The tokens of a list are those that were collected for it. -/
theorem tokens_grouped (entries : List Entry) (s : Section) (key : Text) :
    ((grouped entries s key).flatMap tokens).eraseDups
      = ((collected entries s key).flatMap tokens).eraseDups := by
  rw [grouped, eraseDups_flatMap_eraseDups, flatMap_tokens_tidy]

/-- **What the request asks for**: its terms have the tokens of the levels and of the keywords,
though the keywords are cut into values, lose repetitions and may be blank. -/
theorem exists_read_titleRequest (hlevels : Markup.Unmarked levels)
    (hkeywords : Markup.Unmarked keywords) (hsome : levels.trim ≠ []) :
    ∃ r, Requisition.read (titleRequest levels keywords) = .ok r
      ∧ ((r.comments.values .titles "job_levels").flatMap tokens).eraseDups
        = (tokens levels).eraseDups
      ∧ ((r.comments.values .titles "keywords").flatMap tokens).eraseDups
        = (tokens keywords).eraseDups := by
  refine ⟨⟨[], classify ((titleLines levels keywords).map cleanNode)⟩, ?_, ?_⟩
  · rw [titleRequest_eq]
    exact read_marked_paragraphs (List.cons_ne_nil _ _) (unmarked_titleLines hlevels hkeywords)
  · -- the header opens the section, and each label is read in it
    have hheader : Reads {} (cleanNode "Titles:") ⟨.titles, none⟩ (.openSection .titles) :=
      reads_iff.mpr (by decide +kernel)
    obtain ⟨q, e, hlevel, hq, hgive⟩ :=
      exists_reads_labelled isLabel_jobLevels .titles (' ' :: levels)
    obtain ⟨q', e', hkeyword, -, hgive'⟩ :=
      exists_reads_labelled isLabel_keywords .titles (' ' :: keywords)
    obtain rfl := hq hsome
    have htrace : Trace {} ((titleLines levels keywords).map cleanNode) q'
        [.openSection .titles, e, e'] :=
      .cons hheader (.cons hlevel (.cons hkeyword (.nil q')))
    have hentries : [.openSection .titles, e, e'].filterMap Effect.entry?
        = e.entry?.toList ++ e'.entry?.toList := by
      cases e <;> cases e' <;> rfl
    have hspace : tokenView ' ' = [' '] := by decide +kernel
    have hgiven : ∀ key : Text,
        (((classify ((titleLines levels keywords).map cleanNode)).values .titles key).flatMap
          tokens).eraseDups
          = ((if Text.key "Job Levels" = key then tokens levels else [])
            ++ if Text.key "Keywords" = key then tokens keywords else []).eraseDups := by
      intro key
      have hone := hgive .titles key
      have hother := hgive' .titles key
      simp only [true_and, tokens_cons hspace] at hone hother
      calc (((classify ((titleLines levels keywords).map cleanNode)).values .titles key).flatMap
            tokens).eraseDups
          = ((collected (e.entry?.toList ++ e'.entry?.toList) .titles key).flatMap
              tokens).eraseDups := by rw [values_classify htrace, tokens_grouped, hentries]
        _ = ((collected e.entry?.toList .titles key).flatMap tokens
              ++ (collected e'.entry?.toList .titles key).flatMap tokens).eraseDups := by
            rw [collected_append, List.flatMap_append]
        _ = _ := by rw [hone, hother]
    have hjobs : Text.key "Job Levels" = "job_levels" := by decide +kernel
    have hwords : Text.key "Keywords" = "keywords" := by decide +kernel
    constructor
    · rw [hgiven, if_pos hjobs, if_neg (by rw [hwords]; decide), List.append_nil]
    · rw [hgiven, if_pos hwords, if_neg (by rw [hjobs]; decide), List.nil_append]

end LeadScreen
