import LeadScreen.Proofs.Requisition.Cuts
import Mathlib.Logic.Relation

set_option autoImplicit false

/-! # Blanks beside blocks

Markup is often set out with blanks and line feeds around its blocks. Here blanks are put into a
forest next to an element that is a block or has one inside (`Spacing`), in front of it or behind
it, as a string of their own or at the end of one that stands there, at any depth. The forest is cut
at such an element, so that the blanks come to lie at an end of a piece; and they make no piece of
their own, as a piece of an innermost block has no such element in it. `nodesOf_of_respaced` says
that the nodes stay the same, however often blanks are put in or taken out.
-/

namespace LeadScreen

variable {t blanks : Text}

/-! ## Blanks at the ends of a node -/

theorem allBlank_map_spaced (h : ∀ c ∈ blanks, isBlank c = true) :
    ∀ c ∈ blanks.map spaced, isBlank c = true := by
  intro c hc
  obtain ⟨b, hb, rfl⟩ := List.mem_map.mp hc
  rw [isBlank_spaced]
  exact h b hb

theorem cleanNode_append_blank (h : ∀ c ∈ blanks, isBlank c = true) :
    cleanNode (t ++ blanks) = cleanNode t := by
  rw [cleanNode_eq_trim, List.map_append, Text.trim_append_of_blank (allBlank_map_spaced h),
    ← cleanNode_eq_trim]

theorem cleanNode_blank_append (h : ∀ c ∈ blanks, isBlank c = true) :
    cleanNode (blanks ++ t) = cleanNode t := by
  rw [cleanNode_eq_trim, List.map_append, Text.trim_blank_append (allBlank_map_spaced h),
    ← cleanNode_eq_trim]

namespace Markup.Forest

/-! ## Pieces that come to the same node -/

/-- A piece with its text as a node has it. -/
def Piece.clean (p : Piece) : Piece :=
  { p with text := cleanNode p.text }

/-- The nodes can be told from the clean pieces. -/
theorem nodesOf_eq_clean {f : Forest} (h : f.hasElement isBlockName = true) :
    nodesOf f
      = ((f.pieces.map Piece.clean).filter fun p => p.innermost || !p.text.isEmpty).map
          Piece.text := by
  rw [nodesOf_eq_map f h, List.filter_map, List.map_map]
  refine congrArg _ (List.filter_congr fun p _ => ?_)
  rw [Bool.eq_iff_iff, isNode_iff]
  simp [Piece.clean]

/-- Two beginnings that make the same nodes with whatever follows. -/
def Alike (p q : Piece) : Prop :=
  p.innermost = q.innermost ∧ ∀ t, cleanNode (p.text ++ t) = cleanNode (q.text ++ t)

theorem Alike.clean_eq {p q : Piece} (h : Alike p q) : p.clean = q.clean := by
  have htext := h.2 []
  rw [List.append_nil, List.append_nil] at htext
  rw [Piece.clean, Piece.clean, htext, h.1]

theorem Alike.cutFrom {p q : Piece} (h : Alike p q) (ms : List Mark) :
    (cutFrom p ms).map Piece.clean = (cutFrom q ms).map Piece.clean := by
  induction ms generalizing p q with
  | nil => exact congrArg (fun r => [r]) h.clean_eq
  | cons m ms ih =>
      cases m with
      | text content =>
          refine ih ⟨h.1, fun t => ?_⟩
          rw [List.append_assoc, List.append_assoc]
          exact h.2 (content ++ t)
      | start innermost =>
          rw [Forest.cutFrom, Forest.cutFrom, List.map_cons, List.map_cons, h.clean_eq]
      | stop => rw [Forest.cutFrom, Forest.cutFrom, List.map_cons, List.map_cons, h.clean_eq]

/-! ## Putting blanks in -/

/-- **Blanks are put in at one place**, next to an element that is a block or has one inside. -/
inductive Spacing : Forest → Forest → Prop where
  /-- In front of the element. -/
  | before {name blanks : Text} {inside next : Forest} {kind : Kind}
      (hblock : containsBlock name inside = true) (h : ∀ c ∈ blanks, isBlank c = true) :
      Spacing (.element name inside next) (.text kind blanks (.element name inside next))
  /-- Behind it. -/
  | behind {name blanks : Text} {inside next : Forest} {kind : Kind}
      (hblock : containsBlock name inside = true) (h : ∀ c ∈ blanks, isBlank c = true) :
      Spacing (.element name inside next) (.element name inside (.text kind blanks next))
  /-- At the end of a string in front of it. -/
  | lengthened {name content blanks : Text} {inside next : Forest} {kind : Kind}
      (hblock : containsBlock name inside = true) (h : ∀ c ∈ blanks, isBlank c = true) :
      Spacing (.text kind content (.element name inside next))
        (.text kind (content ++ blanks) (.element name inside next))
  /-- At the start of a string behind it. -/
  | indented {name content blanks : Text} {inside next : Forest} {kind : Kind}
      (hblock : containsBlock name inside = true) (h : ∀ c ∈ blanks, isBlank c = true) :
      Spacing (.element name inside (.text kind content next))
        (.element name inside (.text kind (blanks ++ content) next))
  /-- Somewhere in an element. -/
  | inside {name : Text} {inside inside' next : Forest} (h : Spacing inside inside') :
      Spacing (.element name inside next) (.element name inside' next)
  /-- Somewhere behind an element. -/
  | nextElement {name : Text} {inside next next' : Forest} (h : Spacing next next') :
      Spacing (.element name inside next) (.element name inside next')
  /-- Somewhere behind a string. -/
  | nextText {kind : Kind} {content : Text} {next next' : Forest} (h : Spacing next next') :
      Spacing (.text kind content next) (.text kind content next')

variable {f g : Forest}

/-- There is a block where blanks are put in, and it is still there. -/
theorem Spacing.hasElement (h : Spacing f g) :
    f.hasElement isBlockName = true ∧ g.hasElement isBlockName = true := by
  induction h with
  | before hblock _ | behind hblock _ | lengthened hblock _ | indented hblock _ =>
      exact ⟨hasElement_of_containsBlock _ hblock, hasElement_of_containsBlock _ hblock⟩
  | inside _ ih =>
      rw [Forest.hasElement, Forest.hasElement, ih.1, ih.2, Bool.or_true]
      exact ⟨rfl, rfl⟩
  | nextElement _ ih =>
      rw [Forest.hasElement, Forest.hasElement, ih.1, ih.2]
      exact ⟨Bool.or_true _, Bool.or_true _⟩
  | nextText _ ih => exact ih

/-- At an element with a block the piece that was begun ends, and behind it another begins. -/
theorem cutFrom_of_containsBlock {name : Text} {inside : Forest}
    (hblock : containsBlock name inside = true) (next : Forest) (begun : Piece)
    (more : List Mark) :
    cutFrom begun ((Forest.element name inside next).marks ++ more)
      = begun :: (cutFrom ⟨[], isInnermost name inside⟩ inside.marks
          ++ cutFrom ⟨[], false⟩ (next.marks ++ more)) := by
  rw [marks, if_pos hblock, List.cons_append, List.append_assoc, cutFrom]
  exact congrArg _ (cutFrom_append_stop _ _ _)

/-- Blanks show as blanks or not at all. -/
theorem blank_of_shown {kind : Kind} (h : ∀ c ∈ blanks, isBlank c = true) :
    ∀ c ∈ (if isShown kind then blanks else []), isBlank c = true := by
  split
  · exact h
  · exact fun c hc => absurd hc List.not_mem_nil

/-- What is shown of a text with more at its end or start. -/
theorem shown_append (kind : Kind) (a b : Text) :
    (if isShown kind then a ++ b else [])
      = (if isShown kind then a else []) ++ if isShown kind then b else [] := by
  split <;> rfl

/-- **The clean pieces stay the same**, whatever was read before and is read after. -/
theorem Spacing.cutFrom_eq (h : Spacing f g) (begun : Piece) (more : List Mark) :
    (cutFrom begun (f.marks ++ more)).map Piece.clean
      = (cutFrom begun (g.marks ++ more)).map Piece.clean := by
  induction h generalizing begun more with
  | @before name blanks inside next kind hblock h =>
      -- the blanks are the end of the piece that was begun
      rw [marks_text, List.cons_append, cutFrom_text, cutFrom_of_containsBlock hblock,
        cutFrom_of_containsBlock hblock, List.map_cons, List.map_cons, Piece.clean, Piece.clean,
        cleanNode_append_blank (blank_of_shown h)]
  | @behind name blanks inside next kind hblock h =>
      -- the blanks are the start of the piece behind the element
      rw [cutFrom_of_containsBlock hblock, cutFrom_of_containsBlock hblock, List.map_cons,
        List.map_cons, List.map_append, List.map_append, marks_text, List.cons_append,
        cutFrom_text]
      have halike : Alike ⟨[], false⟩ ⟨[] ++ if isShown kind then blanks else [], false⟩ :=
        ⟨rfl, fun t => (cleanNode_blank_append (blank_of_shown h)).symm⟩
      rw [halike.cutFrom]
  | @lengthened name content blanks inside next kind hblock h =>
      rw [marks_text, marks_text, List.cons_append, List.cons_append, cutFrom_text, cutFrom_text,
        cutFrom_of_containsBlock hblock, cutFrom_of_containsBlock hblock, List.map_cons,
        List.map_cons, Piece.clean, Piece.clean, shown_append, ← List.append_assoc,
        cleanNode_append_blank (blank_of_shown h)]
  | @indented name content blanks inside next kind hblock h =>
      rw [cutFrom_of_containsBlock hblock, cutFrom_of_containsBlock hblock, List.map_cons,
        List.map_cons, List.map_append, List.map_append, marks_text, marks_text,
        List.cons_append, List.cons_append, cutFrom_text, cutFrom_text, shown_append]
      have halike : Alike ⟨[] ++ if isShown kind then content else [], false⟩
          ⟨[] ++ ((if isShown kind then blanks else []) ++ if isShown kind then content else []),
            false⟩ := by
        refine ⟨rfl, fun t => ?_⟩
        rw [List.nil_append, List.nil_append, List.append_assoc]
        exact (cleanNode_blank_append (blank_of_shown h)).symm
      rw [halike.cutFrom]
  | @inside name inside inside' next hspacing ih =>
      obtain ⟨hhas, hhas'⟩ := hspacing.hasElement
      have hblock : containsBlock name inside = true := by
        rw [containsBlock, hhas, Bool.or_true]
      have hblock' : containsBlock name inside' = true := by
        rw [containsBlock, hhas', Bool.or_true]
      -- there is a block inside before and after, so that neither is an innermost block
      have hsame : isInnermost name inside = isInnermost name inside' := by
        rw [isInnermost, isInnermost, hhas, hhas']
      have hinside := ih ⟨[], isInnermost name inside⟩ []
      rw [List.append_nil, List.append_nil] at hinside
      rw [cutFrom_of_containsBlock hblock, cutFrom_of_containsBlock hblock', List.map_cons,
        List.map_cons, List.map_append, List.map_append, hinside, hsame]
  | @nextElement name inside next next' hspacing ih =>
      by_cases hblock : containsBlock name inside = true
      · rw [cutFrom_of_containsBlock hblock, cutFrom_of_containsBlock hblock, List.map_cons,
          List.map_cons, List.map_append, List.map_append, ih]
      · rw [marks_of_not_containsBlock hblock, marks_of_not_containsBlock hblock]
        exact ih _ more
  | @nextText kind content next next' hspacing ih => exact ih _ more

theorem Spacing.nodesOf_eq (h : Spacing f g) : nodesOf f = nodesOf g := by
  obtain ⟨hf, hg⟩ := h.hasElement
  have hpieces := h.cutFrom_eq ⟨[], false⟩ []
  rw [List.append_nil, List.append_nil] at hpieces
  rw [nodesOf_eq_clean hf, nodesOf_eq_clean hg, pieces, pieces, hpieces]

/-- **Blanks beside blocks make no difference**, however often they are put in or taken out: the
nodes stay the same, and with them the comments. -/
theorem nodesOf_of_respaced (h : Relation.EqvGen Spacing f g) :
    nodesOf f = nodesOf g ∧ Classifier.classify (nodesOf f) = Classifier.classify (nodesOf g) := by
  have hnodes : nodesOf f = nodesOf g := by
    induction h with
    | rel f g hspacing => exact hspacing.nodesOf_eq
    | refl f => rfl
    | symm f g _ ih => exact ih.symm
    | trans f g k _ _ ihfg ihgk => exact ihfg.trans ihgk
  exact ⟨hnodes, congrArg Classifier.classify hnodes⟩

def compact : Forest :=
  .element "div" (.element "p" (.text .plain "Keywords:" .nil)
    (.element "p" (.text .plain "cloud" .nil) .nil)) .nil

def spread : Forest :=
  .element "div" (.element "p" (.text .plain "Keywords:" .nil)
    (.text .plain "\n\u00A0 " (.element "p" (.text .plain "cloud" .nil) .nil)))
    (.text .plain "\n" .nil)

/-- The key still waits for its value behind a line feed and blanks. -/
theorem nodesOf_of_respaced_spread :
    Relation.EqvGen Spacing compact spread
      ∧ nodesOf compact = nodesOf spread
      ∧ Classifier.classify (nodesOf compact) = Classifier.classify (nodesOf spread)
      ∧ Classifier.classify (nodesOf spread)
          = [(Section.root, [("keywords".toList, ["cloud".toList])])] := by
  have h : Relation.EqvGen Spacing compact spread := by
    refine .trans _ _ _ (.rel _ _ (.inside (.behind rfl ?_))) (.rel _ _ (.behind rfl ?_))
    · exact List.all_eq_true.mp (by decide)
    · exact List.all_eq_true.mp (by decide)
  obtain ⟨hnodes, hcomments⟩ := nodesOf_of_respaced h
  exact ⟨h, hnodes, hcomments, by decide +kernel⟩

end Markup.Forest

end LeadScreen
