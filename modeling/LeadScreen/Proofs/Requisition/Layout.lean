import LeadScreen.Proofs.Classifier.Rules
import LeadScreen.Proofs.Markup.Layout
import LeadScreen.Requisition.Read

set_option autoImplicit false

/-! # How the lines of comments are set

Comments can be written as plain lines, as lines with break tags between them, or as paragraphs.
The first two are read as one text that is cut into lines, and the third block by block, and blank
lines fare differently: at the end, or where there is nothing else, some are lost. What is lost is
never missed: `readComments_of_lines` says that all three come to the same comments, those of the
lines taken up one by one.
-/

namespace LeadScreen

open Markup

variable {line t : Text} {ls : List Text}

/-! ## Nodes without blanks around them -/

/-- A character with a space in place of a no-break space. -/
def spaced (c : Char) : Char :=
  if c = '\u00A0' then ' ' else c

theorem cleanNode_eq_trim (t : Text) : cleanNode t = Text.trim (t.map spaced) := rfl

theorem isBlank_spaced (c : Char) : isBlank (spaced c) = isBlank c := by
  unfold spaced
  split
  · rename_i hc
    rw [hc]
    decide
  · rfl

/-- Nothing is left of a node exactly if it is blank. -/
theorem cleanNode_eq_nil_iff : cleanNode t = [] ↔ t.trim = [] := by
  have hall : Text.allBlank (t.map spaced) = Text.allBlank t := by
    rw [Text.allBlank, Text.allBlank, List.all_map]
    exact congrArg (List.all t) (funext isBlank_spaced)
  rw [cleanNode_eq_trim, Text.trim_eq_nil_iff, Text.trim_eq_nil_iff, hall]

theorem cleanNode_of_blank (h : ∀ c ∈ t, isBlank c = true) : cleanNode t = [] :=
  cleanNode_eq_nil_iff.mpr (Text.trim_eq_nil_iff.mpr (List.all_eq_true.mpr h))

theorem isBlank_of_isAsciiBlank {c : Char} (h : isAsciiBlank c = true) : isBlank c = true := by
  simp only [isAsciiBlank, Bool.or_eq_true, beq_iff_eq] at h
  rcases h with (((rfl | rfl) | rfl) | rfl) | rfl <;> decide

/-- A text is kept as it is, or it is a text of blanks and one of them is kept. -/
theorem keptText_cases (t : Text) : keptText t = t ∨ (∀ c ∈ t, isBlank c = true)
    ∧ (keptText t = [' '] ∨ '\n' ∈ t ∧ keptText t = ['\n']) := by
  unfold keptText shortenBlanks
  split
  · rename_i hempty
    exact Or.inl (List.isEmpty_iff.mp hempty).symm
  · split
    · rename_i hall
      refine Or.inr ⟨fun c hc => isBlank_of_isAsciiBlank (List.all_eq_true.mp hall c hc), ?_⟩
      split
      · rename_i hfeed
        exact Or.inr ⟨List.elem_iff.mp hfeed, rfl⟩
      · exact Or.inl rfl
    · exact Or.inl rfl

@[simp] theorem cleanNode_keptText (t : Text) : cleanNode (keptText t) = cleanNode t := by
  rcases keptText_cases t with hself | ⟨hblank, hkept⟩
  · rw [hself]
  · rw [cleanNode_of_blank hblank]
    rcases hkept with hkept | ⟨-, hkept⟩ <;> rw [hkept] <;> decide

/-! ## Paragraphs -/

theorem blockTexts_paragraphForest (nested : Bool) (ls : List Text) :
    Forest.blockTexts false nested [] (paragraphForest ls) = ls.map keptText := by
  induction ls generalizing nested with
  | nil => rfl
  | cons line ls ih =>
      have hinside : Forest.blockTexts true false [] (textForest line) = [keptText line] := by
        cases line <;> rfl
      show [] ++ Forest.blockTexts true false [] (textForest line)
        ++ Forest.blockTexts false true [] (paragraphForest ls) = _
      rw [hinside, ih, List.map_cons]
      rfl

/-- **Every paragraph is a node.** -/
theorem commentNodes_paragraphs (h : ∀ line ∈ ls, Unmarked line) :
    commentNodes (paragraphs ls) = .ok (ls.map cleanNode) := by
  have hraw : (paragraphForest ls).rawNodes = ls.map keptText := by
    cases ls with
    | nil => rfl
    | cons line ls =>
        have hblock : (paragraphForest (line :: ls)).hasElement isBlockName = true := rfl
        rw [Forest.rawNodes, if_pos hblock, blockTexts_paragraphForest]
  rw [commentNodes, read_paragraphs h]
  refine congrArg Except.ok ?_
  rw [nodesOf, hraw, List.map_map]
  exact List.map_congr_left fun line _ => cleanNode_keptText line

/-! ## Lines -/

/-- **A line of comments**: a text without markup and without line boundaries. -/
structure IsLine (t : Text) : Prop where
  unmarked : Unmarked t
  unbroken : ∀ c ∈ t, isLineBoundary c = false

/-- A text without blocks is cut into lines. -/
theorem commentNodes_of_read {f : Forest} (hread : Forest.read t = .ok f)
    (hblock : f.hasElement isBlockName = false) :
    commentNodes t = .ok (f.plainLines.map cleanNode) := by
  rw [commentNodes, hread]
  refine congrArg Except.ok ?_
  rw [nodesOf, Forest.rawNodes, hblock, if_neg Bool.false_ne_true]

/-- Lines that were joined come to the comments of the lines: only an empty line at the end may be
missing. -/
theorem classify_lines_joinWith (h : ∀ line ∈ ls, ∀ c ∈ line, isLineBoundary c = false) :
    Classifier.classify ((Text.lines (Text.joinWith ['\n'] ls)).map cleanNode)
      = Classifier.classify (ls.map cleanNode) := by
  obtain ⟨lost, hls, hlost⟩ := Text.exists_lines_joinWith h
  have hblank : ∀ node ∈ lost.map cleanNode, node.trim = [] := by
    intro node hnode
    obtain ⟨line, hline, rfl⟩ := List.mem_map.mp hnode
    rw [hlost line hline]
    rfl
  conv_rhs => rw [hls]
  rw [List.map_append, Classifier.classify_append_of_blank _ hblank]

theorem IsLine.keptText (h : IsLine line) : ∀ c ∈ keptText line, isLineBoundary c = false := by
  intro c hc
  rcases keptText_cases line with hself | ⟨-, hkept | ⟨hfeed, -⟩⟩
  · exact h.unbroken c (hself ▸ hc)
  · rw [hkept, List.mem_singleton] at hc
    rw [hc]
    decide
  · exact absurd (h.unbroken '\n' hfeed) (by decide)

theorem readComments_broken (h : ∀ line ∈ ls, IsLine line) :
    Requisition.readComments (broken ls) = .ok (Classifier.classify (ls.map cleanNode)) := by
  have hkept : ∀ kept ∈ ls.map keptText, ∀ c ∈ kept, isLineBoundary c = false := by
    intro kept hmem
    obtain ⟨line, hline, rfl⟩ := List.mem_map.mp hmem
    exact (h line hline).keptText
  have hnodes := commentNodes_of_read (read_broken fun line hline => (h line hline).unmarked)
    (hasElement_brokenForest (by decide) ls)
  rw [Requisition.readComments, hnodes]
  refine congrArg Except.ok ?_
  calc Classifier.classify ((brokenForest ls).plainLines.map cleanNode)
      = Classifier.classify
          ((Text.lines (Text.joinWith ['\n'] (ls.map keptText))).map cleanNode) := by
        rw [Forest.plainLines, runningText_replaceElements_brokenForest]
    _ = Classifier.classify ((ls.map keptText).map cleanNode) := classify_lines_joinWith hkept
    _ = Classifier.classify (ls.map cleanNode) := by
        rw [List.map_map]
        exact congrArg _ (List.map_congr_left fun line _ => cleanNode_keptText line)

theorem unmarked_joined (h : ∀ line ∈ ls, Unmarked line) :
    Unmarked (Text.joinWith ['\n'] ls) := by
  have hmem : ∀ c : Char, c ≠ '\n' → c ∈ Text.joinWith ['\n'] ls → ∃ line ∈ ls, c ∈ line := by
    intro c hc hmem
    rcases Text.mem_joinWith hmem with hsep | hline
    · exact absurd (List.mem_singleton.mp hsep) hc
    · exact hline
  refine ⟨fun hbracket => ?_, fun hamp => ?_⟩
  · obtain ⟨line, hline, hc⟩ := hmem '<' (by decide) hbracket
    exact (h line hline).1 hc
  · obtain ⟨line, hline, hc⟩ := hmem '&' (by decide) hamp
    exact (h line hline).2 hc

theorem classify_of_blank {nodes : List Text} (h : ∀ node ∈ nodes, node.trim = []) :
    Classifier.classify nodes = [] :=
  Classifier.classify_append_of_blank [] h

theorem readComments_joined (h : ∀ line ∈ ls, IsLine line) :
    Requisition.readComments (Text.joinWith ['\n'] ls)
      = .ok (Classifier.classify (ls.map cleanNode)) := by
  have hread := read_of_unmarked (unmarked_joined fun line hline => (h line hline).unmarked)
  have hblock : ∀ t, (textForest t).hasElement isBlockName = false := fun t => by cases t <;> rfl
  have hlines : ∀ t, (textForest t).plainLines = Text.lines (keptText t) := fun t => by
    rw [Forest.plainLines, replaceElements_textForest, runningText_textForest]
  rw [Requisition.readComments, commentNodes_of_read hread (hblock _), hlines]
  refine congrArg Except.ok ?_
  rcases keptText_cases (Text.joinWith ['\n'] ls) with hself | ⟨hblank, hkept⟩
  · rw [hself]
    exact classify_lines_joinWith fun line hline => (h line hline).unbroken
  · -- all lines are blank, and so is what is left of them
    have hnodes : ∀ node ∈ ls.map cleanNode, node.trim = [] := by
      intro node hnode
      obtain ⟨line, hline, rfl⟩ := List.mem_map.mp hnode
      rw [cleanNode_of_blank fun c hc => hblank c (Text.mem_joinWith_of_mem _ hline hc)]
      rfl
    rw [classify_of_blank hnodes]
    rcases hkept with hkept | ⟨-, hkept⟩ <;> rw [hkept] <;> decide

/-- **However lines are set, they come to the same comments**: joined by line feeds, with break
tags between them, and as paragraphs, lines without markup are read as the lines one by one, with
spaces for no-break spaces and trimmed. -/
theorem readComments_of_lines (ls : List Text) (h : ∀ line ∈ ls, IsLine line) :
    Requisition.readComments (Text.joinWith ['\n'] ls)
        = .ok (Classifier.classify (ls.map cleanNode))
      ∧ Requisition.readComments (broken ls) = .ok (Classifier.classify (ls.map cleanNode))
      ∧ Requisition.readComments (paragraphs ls)
        = .ok (Classifier.classify (ls.map cleanNode)) := by
  refine ⟨readComments_joined h, readComments_broken h, ?_⟩
  rw [Requisition.readComments, commentNodes_paragraphs fun line hline => (h line hline).unmarked]
  rfl

/-- In all three settings a blank line takes the wait from a key: what follows is a line. -/
theorem readComments_of_blank_between :
    (∀ line ∈ (["Keywords:", "\u00A0", "cloud"].map String.toList : List Text), IsLine line)
      ∧ Requisition.readComments "Keywords:\n\u00A0\ncloud"
        = .ok [(.root, [(linesKey, ["cloud".toList])])]
      ∧ Requisition.readComments "Keywords:<br>\u00A0<br>cloud"
        = .ok [(.root, [(linesKey, ["cloud".toList])])]
      ∧ Requisition.readComments "<p>Keywords:</p><p>\u00A0</p><p>cloud</p>"
        = .ok [(.root, [(linesKey, ["cloud".toList])])] := by
  have hlines : ∀ line ∈ (["Keywords:", "\u00A0", "cloud"].map String.toList : List Text),
      IsLine line := by
    intro line hline
    have hall : (["Keywords:", "\u00A0", "cloud"].map String.toList : List Text).all
        (fun line => line.all fun c => !(c == '<' || c == '&' || isLineBoundary c)) = true := by
      decide +kernel
    have hline := List.all_eq_true.mp (List.all_eq_true.mp hall line hline)
    simp only [Bool.not_eq_true', Bool.or_eq_false_iff, beq_eq_false_iff_ne] at hline
    exact ⟨⟨fun h => (hline '<' h).1.1 rfl, fun h => (hline '&' h).1.2 rfl⟩,
      fun c hc => (hline c hc).2⟩
  have hclassify : Classifier.classify
      ((["Keywords:", "\u00A0", "cloud"].map String.toList).map cleanNode)
        = [(.root, [(linesKey, ["cloud".toList])])] := by decide +kernel
  have h := readComments_of_lines (["Keywords:", "\u00A0", "cloud"].map String.toList) hlines
  rw [hclassify] at h
  exact ⟨hlines, h⟩

end LeadScreen
