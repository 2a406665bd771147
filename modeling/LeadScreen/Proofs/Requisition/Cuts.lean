import LeadScreen.Proofs.Requisition.Layout

set_option autoImplicit false

/-! # Nodes as pieces of a cut text

The blocks of a forest are met by going down into it and coming up again. Here the forest is read
straight on instead, as it stands in the document (`Forest.marks`): strings, and a mark at the start
and at the end of each element that is a block or has one inside. The text is cut at the marks into
pieces (`Forest.pieces`), and the nodes are the pieces that are not blank, and those of innermost
blocks whether they are blank or not (`nodesOf_eq_pieces`). What is cut is put together again by
joining the pieces, so that no text is in two nodes and none is lost but blanks.
-/

namespace LeadScreen.Markup

namespace Forest

variable {f : Forest}

/-! ## Reading straight on -/

def isInnermost (name : Text) (inside : Forest) : Bool :=
  isBlockName name && !inside.hasElement isBlockName

/-- What is met when a forest is read straight on. -/
inductive Mark where
  /-- A stretch of text. -/
  | text (content : Text)
  /-- The start of an element where the text is cut. -/
  | start (innermost : Bool)
  /-- The end of such an element. -/
  | stop
deriving DecidableEq, Repr

/-- **A forest read straight on.** The text is cut where an element starts or ends that is a block
or has one inside; any other element is a stretch of text. -/
def marks : Forest → List Mark
  | .nil => []
  | .text kind content next => .text (if isShown kind then content else []) :: marks next
  | .element name inside next =>
    if containsBlock name inside then
      .start (isInnermost name inside) :: (marks inside ++ .stop :: marks next)
    else .text (elementText name inside) :: marks next

/-! ## Cutting -/

/-- A stretch of text between two cuts, and whether it is that of an innermost block. -/
structure Piece where
  text : Text
  innermost : Bool
deriving DecidableEq, Repr

/-- The pieces of what is read on, with the piece that was begun. -/
def cutFrom (begun : Piece) : List Mark → List Piece
  | [] => [begun]
  | .text content :: ms => cutFrom { begun with text := begun.text ++ content } ms
  | .start innermost :: ms => begun :: cutFrom ⟨[], innermost⟩ ms
  | .stop :: ms => begun :: cutFrom ⟨[], false⟩ ms

/-- **The pieces of a forest.** -/
def pieces (f : Forest) : List Piece :=
  cutFrom ⟨[], false⟩ f.marks

/-- Whether a piece is a node: unless it is blank, or in any case that of an innermost block. -/
def Piece.isNode (p : Piece) : Bool :=
  p.innermost || !p.text.allBlank

def nodeTexts (ps : List Piece) : List Text :=
  (ps.filter Piece.isNode).map Piece.text

/-- **The text of a forest as it is cut**: that of the elements without blocks, and of the strings
that stand elsewhere if they are shown. -/
def cutText : Forest → Text
  | .nil => []
  | .text kind content next => (if isShown kind then content else []) ++ cutText next
  | .element name inside next =>
    (if containsBlock name inside then cutText inside else elementText name inside) ++ cutText next

def innermostTexts : Forest → List Text
  | .nil => []
  | .text _ _ next => innermostTexts next
  | .element name inside next =>
    if isInnermost name inside then cutText inside :: innermostTexts next
    else innermostTexts inside ++ innermostTexts next

theorem marks_text (kind : Kind) (content : Text) (next : Forest) :
    (Forest.text kind content next).marks
      = .text (if isShown kind then content else []) :: next.marks := rfl

theorem marks_of_not_containsBlock {name : Text} {inside : Forest}
    (h : ¬ containsBlock name inside = true) (next : Forest) :
    (Forest.element name inside next).marks = .text (elementText name inside) :: next.marks :=
  if_neg h

theorem cutFrom_text (begun : Piece) (content : Text) (ms : List Mark) :
    cutFrom begun (.text content :: ms)
      = cutFrom { begun with text := begun.text ++ content } ms := rfl

/-! ## What elements hold -/

theorem hasElement_of_containsBlock {name : Text} {inside : Forest} (next : Forest)
    (h : containsBlock name inside = true) :
    (Forest.element name inside next).hasElement isBlockName = true := by
  rw [hasElement, ← containsBlock, h, Bool.true_or]

theorem hasElement_of_not_containsBlock {name : Text} {inside : Forest} (next : Forest)
    (h : ¬ containsBlock name inside = true) :
    (Forest.element name inside next).hasElement isBlockName = next.hasElement isBlockName := by
  rw [hasElement, ← containsBlock, eq_false_of_ne_true h, Bool.false_or]

theorem containsBlock_of_isInnermost {name : Text} {inside : Forest}
    (h : isInnermost name inside = true) : containsBlock name inside = true := by
  rw [isInnermost, Bool.and_eq_true] at h
  rw [containsBlock, h.1, Bool.true_or]

/-! ## Nodes -/

theorem nodeTexts_cons (p : Piece) (ps : List Piece) :
    nodeTexts (p :: ps) = (if p.isNode then [p.text] else []) ++ nodeTexts ps := by
  rw [nodeTexts, List.filter_cons]
  split <;> rfl

theorem nodeTexts_append (ps qs : List Piece) :
    nodeTexts (ps ++ qs) = nodeTexts ps ++ nodeTexts qs := by
  rw [nodeTexts, List.filter_append, List.map_append]
  rfl

/-- Behind the end of an element the text is cut as if nothing stood before it. -/
theorem cutFrom_append_stop (begun : Piece) (ms more : List Mark) :
    cutFrom begun (ms ++ .stop :: more) = cutFrom begun ms ++ cutFrom ⟨[], false⟩ more := by
  induction ms generalizing begun with
  | nil => rfl
  | cons m ms ih =>
      cases m with
      | text content => exact ih _
      | start innermost => exact congrArg _ (ih _)
      | stop => exact congrArg _ (ih _)

/-- Going down and up again, and cutting, make the same nodes. -/
theorem nodeTexts_cutFrom (f : Forest) (block nested : Bool) (gathered : Text) :
    nodeTexts (cutFrom ⟨gathered, block && !nested && !f.hasElement isBlockName⟩ f.marks)
      = blockTexts block nested gathered f := by
  -- the piece begun is that of an innermost block as long as no block was met and none will be
  induction f generalizing block nested gathered with
  | nil =>
      show nodeTexts [_] = _
      rw [nodeTexts_cons, blockTexts]
      simp [Piece.isNode, hasElement, nodeTexts]
  | text kind content next ih =>
      rw [marks_text, cutFrom_text, hasElement, blockTexts, ← ih]
      split
      · rfl
      · rw [List.append_nil]
  | element name inside next ihinside ih =>
      by_cases hblock : containsBlock name inside = true
      · have hinside := ihinside (isBlockName name) false []
        have hnext := ih block true []
        rw [Bool.not_true, Bool.and_false, Bool.false_and] at hnext
        rw [Bool.not_false, Bool.and_true, ← isInnermost] at hinside
        rw [hasElement_of_containsBlock next hblock, marks, if_pos hblock, blockTexts,
          if_pos hblock, cutFrom, nodeTexts_cons, cutFrom_append_stop, nodeTexts_append, hinside,
          hnext, ← List.append_assoc]
        cases hblank : gathered.allBlank <;> simp [Piece.isNode, hblank]
      · rw [hasElement_of_not_containsBlock next hblock, marks_of_not_containsBlock hblock,
          blockTexts, if_neg hblock, cutFrom_text, ih]

theorem rawNodes_eq_nodeTexts (h : f.hasElement isBlockName = true) :
    f.rawNodes = nodeTexts f.pieces := by
  rw [rawNodes, if_pos h, ← nodeTexts_cutFrom]
  rfl

/-! ## Nothing twice and nothing lost -/

/-- The text that is met with a mark. -/
def Mark.content : Mark → Text
  | .text content => content
  | .start _ => []
  | .stop => []

theorem flatMap_text_cutFrom (begun : Piece) (ms : List Mark) :
    (cutFrom begun ms).flatMap Piece.text = begun.text ++ ms.flatMap Mark.content := by
  induction ms generalizing begun with
  | nil => rw [cutFrom, List.flatMap_singleton, List.flatMap_nil, List.append_nil]
  | cons m ms ih =>
      rw [List.flatMap_cons]
      cases m with
      | text content => rw [cutFrom_text, ih, List.append_assoc]; rfl
      | start innermost => rw [cutFrom, List.flatMap_cons, ih]; rfl
      | stop => rw [cutFrom, List.flatMap_cons, ih]; rfl

theorem flatMap_content_marks (f : Forest) : f.marks.flatMap Mark.content = f.cutText := by
  induction f with
  | nil => rfl
  | text kind content next ih => rw [marks_text, List.flatMap_cons, ih, cutText]; rfl
  | element name inside next ihinside ih =>
      rw [marks, cutText]
      split
      · rw [List.flatMap_cons, List.flatMap_append, List.flatMap_cons, ihinside, ih]
        rfl
      · rw [List.flatMap_cons, ih]
        rfl

/-- Joined, the pieces are the whole text. -/
theorem flatMap_text_pieces (f : Forest) : f.pieces.flatMap Piece.text = f.cutText := by
  rw [pieces, flatMap_text_cutFrom, flatMap_content_marks]
  rfl

/-! ## Innermost blocks -/

/-- Without blocks nothing is cut. -/
theorem cutFrom_marks_of_no_block (h : f.hasElement isBlockName = false) (begun : Piece) :
    cutFrom begun f.marks = [{ begun with text := begun.text ++ f.cutText }] := by
  induction f generalizing begun with
  | nil => rw [cutText, List.append_nil]; rfl
  | text kind content next ih =>
      rw [marks_text, cutFrom_text, ih h, cutText, List.append_assoc]
  | element name inside next _ ih =>
      have hblock : ¬ containsBlock name inside = true := by
        intro hblock
        rw [hasElement_of_containsBlock next hblock] at h
        exact Bool.noConfusion h
      rw [hasElement_of_not_containsBlock next hblock] at h
      rw [marks_of_not_containsBlock hblock, cutFrom_text, ih h, cutText, if_neg hblock,
        List.append_assoc]

theorem innermostTexts_of_no_block (h : f.hasElement isBlockName = false) :
    f.innermostTexts = [] := by
  induction f with
  | nil => rfl
  | text kind content next ih => exact ih h
  | element name inside next ihinside ih =>
      rw [hasElement, Bool.or_eq_false_iff, Bool.or_eq_false_iff] at h
      obtain ⟨⟨hname, hinside⟩, hnext⟩ := h
      rw [innermostTexts, isInnermost, hname, ihinside hinside, ih hnext]
      rfl

theorem innermostTexts_cutFrom (gathered : Text) (f : Forest) :
    ((cutFrom ⟨gathered, false⟩ f.marks).filter Piece.innermost).map Piece.text
      = f.innermostTexts := by
  induction f generalizing gathered with
  | nil => rfl
  | text kind content next ih => exact ih _
  | element name inside next ihinside ih =>
      by_cases hblock : containsBlock name inside = true
      · rw [marks, if_pos hblock, cutFrom, cutFrom_append_stop,
          List.filter_cons_of_neg Bool.false_ne_true, List.filter_append, List.map_append, ih,
          innermostTexts]
        by_cases hinner : isInnermost name inside = true
        · -- there is one piece, which is that of the block
          have hnone : inside.hasElement isBlockName = false := by
            rw [isInnermost, Bool.and_eq_true, Bool.not_eq_true'] at hinner
            exact hinner.2
          rw [hinner, cutFrom_marks_of_no_block hnone, if_pos rfl]
          rfl
        · rw [eq_false_of_ne_true hinner, ihinside, if_neg Bool.false_ne_true]
      · have hnone : inside.hasElement isBlockName = false := by
          rw [containsBlock, Bool.or_eq_true, not_or] at hblock
          exact eq_false_of_ne_true hblock.2
        have hinner : ¬ isInnermost name inside = true :=
          fun h => hblock (containsBlock_of_isInnermost h)
        rw [marks_of_not_containsBlock hblock, cutFrom_text, ih, innermostTexts, if_neg hinner,
          innermostTexts_of_no_block hnone]
        rfl

/-- The pieces of innermost blocks are the texts of these blocks. -/
theorem innermostTexts_pieces (f : Forest) :
    (f.pieces.filter Piece.innermost).map Piece.text = f.innermostTexts :=
  innermostTexts_cutFrom [] f

end Forest

/-! ## The nodes -/

open Forest

theorem isNode_iff (p : Piece) :
    p.isNode = true ↔ p.innermost = true ∨ cleanNode p.text ≠ [] := by
  rw [Piece.isNode, Bool.or_eq_true, Bool.not_eq_true', ← Bool.not_eq_true, Ne,
    cleanNode_eq_nil_iff, Text.trim_eq_nil_iff]

theorem nodesOf_eq_map (f : Forest) (h : f.hasElement isBlockName = true) :
    nodesOf f = (f.pieces.filter Piece.isNode).map fun p => cleanNode p.text := by
  rw [nodesOf, rawNodes_eq_nodeTexts h, nodeTexts, List.map_map]
  rfl

/-- **Nodes are the pieces of a cut text.** The text of a forest with blocks, read straight on, is
cut where an element that is a block or has one inside starts or ends; the nodes are, in order, the
pieces that are not blank, and those of innermost blocks in any case. So the pieces are the whole
text, each of them once; no piece is lost that is not blank; and there are as many blank nodes as
there are blank innermost blocks. -/
theorem nodesOf_eq_pieces (f : Forest) (h : f.hasElement isBlockName = true) :
    nodesOf f = (f.pieces.filter Piece.isNode).map (fun p => cleanNode p.text)
      ∧ f.pieces.flatMap Piece.text = f.cutText
      ∧ (f.pieces.filter Piece.innermost).map Piece.text = f.innermostTexts
      ∧ (nodesOf f).filter (fun node => !node.isEmpty)
          = (f.pieces.map fun p => cleanNode p.text).filter (fun node => !node.isEmpty)
      ∧ (nodesOf f).count [] = (f.innermostTexts.map cleanNode).count [] := by
  have hnodes := nodesOf_eq_map f h
  refine ⟨hnodes, flatMap_text_pieces f, innermostTexts_pieces f, ?_, ?_⟩
  · rw [hnodes, List.filter_map, List.filter_map, List.filter_filter]
    refine congrArg _ (List.filter_congr fun p _ => ?_)
    by_cases hclean : cleanNode p.text = []
    · simp [hclean]
    · simp [(isNode_iff p).mpr (Or.inr hclean)]
  · rw [hnodes, ← innermostTexts_pieces, List.map_map, List.count_eq_countP, List.count_eq_countP,
      List.countP_map, List.countP_map, List.countP_filter, List.countP_filter]
    refine List.countP_congr fun p _ => ?_
    by_cases hclean : cleanNode p.text = []
    · -- a blank piece is a node if it is that of an innermost block
      have hnode : p.isNode = true ↔ p.innermost = true :=
        (isNode_iff p).trans (or_iff_left (not_not_intro hclean))
      simp [hclean, hnode]
    · simp [hclean]

/-- A division with text before, between and within the paragraphs in it. -/
def nested : Forest :=
  .element "div" (.text .plain "Titles:" (.element "p" (.text .plain "VP" .nil)
    (.text .plain " " (.element "b" (.text .plain "or CTO" .nil) (.element "p" .nil .nil))))) .nil

/-- The text behind a paragraph is a node by itself, and so is an empty paragraph. -/
theorem nodesOf_eq_pieces_of_nested :
    nested.hasElement isBlockName = true
      ∧ nodesOf nested = ["Titles:", "VP", "or CTO", ""].map String.toList
      ∧ nested.pieces.flatMap Piece.text = nested.cutText
      ∧ (nodesOf nested).count [] = (nested.innermostTexts.map cleanNode).count [] := by
  have hblock : nested.hasElement isBlockName = true := rfl
  obtain ⟨hnodes, hjoined, -, -, hblanks⟩ := nodesOf_eq_pieces nested hblock
  exact ⟨hblock, hnodes.trans (by decide +kernel), hjoined, hblanks⟩

end LeadScreen.Markup
