import LeadScreen.Proofs.Text.Key

set_option autoImplicit false

/-! # The words of a text

Where some characters are separators, the words of a text are the stretches between them that are
not empty (`Text.words`). They split at every separator (`words_append_cons`), and most else
follows from that: separators may be added at the ends, taken away there, collapsed into one
another or replaced by others, and the words stay.
-/

namespace LeadScreen.Text

variable {p q : Char → Bool} {t a b : Text} {c : Char}

def words (p : Char → Bool) (t : Text) : List Text :=
  (splitWhere p t).filter fun word => !word.isEmpty

/-! ## Splitting in parts -/

theorem splitWhere_append_cons (hc : p c = true) (a b : Text) :
    splitWhere p (a ++ c :: b) = splitWhere p a ++ splitWhere p b := by
  induction a with
  | nil => rw [List.nil_append, splitWhere_cons_of_pos hc, splitWhere, List.singleton_append]
  | cons d a ih =>
      rw [List.cons_append]
      cases hd : p d with
      | true => rw [splitWhere_cons_of_pos hd, splitWhere_cons_of_pos hd, ih, List.cons_append]
      | false =>
          obtain ⟨first, pieces, hrest, hall⟩ := splitWhere_cons_of_not hd a
          obtain ⟨first', pieces', hrest', hall'⟩ := splitWhere_cons_of_not hd (a ++ c :: b)
          rw [ih, hrest, List.cons_append] at hrest'
          obtain ⟨rfl, rfl⟩ := List.cons.inj hrest'
          rw [hall, hall', List.cons_append]

/-- A text without separators is one piece. -/
theorem splitWhere_of_forall_not (h : ∀ c ∈ t, p c = false) : splitWhere p t = [t] := by
  induction t with
  | nil => rfl
  | cons c rest ih =>
      obtain ⟨first, pieces, hrest, hall⟩ := splitWhere_cons_of_not (h c List.mem_cons_self) rest
      rw [ih fun d hd => h d (List.mem_cons_of_mem c hd)] at hrest
      obtain ⟨rfl, rfl⟩ := List.cons.inj hrest
      exact hall

/-- A text is split in the same way by what are the same separators in it. -/
theorem splitWhere_congr (h : ∀ c ∈ t, p c = q c) : splitWhere p t = splitWhere q t := by
  induction t with
  | nil => rfl
  | cons c rest ih =>
      rw [splitWhere, splitWhere, h c List.mem_cons_self,
        ih fun d hd => h d (List.mem_cons_of_mem c hd)]

/-- What splits at every separator is made up of what it is on the pieces. -/
theorem flatMap_splitWhere {α : Type} {f : Text → List α}
    (hf : ∀ c a b, p c = true → f (a ++ c :: b) = f a ++ f b) (t : Text) :
    (splitWhere p t).flatMap f = f t := by
  -- along the text, with `a` for what stands before it in the same piece
  suffices h : ∀ a : Text, (∀ c ∈ a, p c = false) →
      (splitWhere p (a ++ t)).flatMap f = f (a ++ t) from h [] nofun
  induction t with
  | nil =>
      intro a ha
      rw [List.append_nil, splitWhere_of_forall_not ha, List.flatMap_singleton]
  | cons c rest ih =>
      intro a ha
      cases hc : p c with
      | true =>
          have hrest : (splitWhere p rest).flatMap f = f rest := ih [] nofun
          rw [splitWhere_append_cons hc, List.flatMap_append, hrest,
            splitWhere_of_forall_not ha, List.flatMap_singleton, hf c a rest hc]
      | false =>
          have ha' : ∀ d ∈ a ++ [c], p d = false := by
            intro d hd
            rcases List.mem_append.mp hd with hd | hd
            · exact ha d hd
            · rw [List.mem_singleton.mp hd]
              exact hc
          rw [List.append_cons]
          exact ih (a ++ [c]) ha'

/-! ## Pieces with their ends trimmed -/

section Trimmed

variable {sep : Char} {blanks : Text}

theorem splitOn_of_not_mem (h : sep ∉ t) : splitOn sep t = [t] :=
  splitWhere_of_forall_not fun _ hc => beq_eq_false_iff_ne.mpr (ne_of_mem_of_not_mem hc h)

theorem splitOn_append_cons (sep : Char) (a b : Text) :
    splitOn sep (a ++ sep :: b) = splitOn sep a ++ splitOn sep b :=
  splitWhere_append_cons (by rw [beq_self_eq_true]) a b

theorem not_mem_of_blank (hsep : isBlank sep = false) (h : ∀ c ∈ blanks, isBlank c = true) :
    sep ∉ blanks := by
  intro hmem
  rw [h sep hmem] at hsep
  cases hsep

/-- Blanks before a text go to its first piece. -/
theorem map_trim_splitOn_blank_append (hsep : isBlank sep = false)
    (h : ∀ c ∈ blanks, isBlank c = true) (t : Text) :
    (splitOn sep (blanks ++ t)).map trim = (splitOn sep t).map trim := by
  have hblanks := not_mem_of_blank hsep h
  by_cases hmem : sep ∈ t
  · obtain ⟨first, rest, rfl, hfirst⟩ := List.eq_append_cons_of_mem hmem
    have hjoined : sep ∉ blanks ++ first := List.not_mem_append hblanks hfirst
    rw [← List.append_assoc, splitOn_append_cons, splitOn_append_cons,
      splitOn_of_not_mem hjoined, splitOn_of_not_mem hfirst, List.map_append, List.map_append,
      List.map_singleton, List.map_singleton, trim_blank_append h]
  · have hjoined : sep ∉ blanks ++ t := List.not_mem_append hblanks hmem
    rw [splitOn_of_not_mem hjoined, splitOn_of_not_mem hmem, List.map_singleton,
      List.map_singleton, trim_blank_append h]

/-- Blanks behind a text go to its last piece. -/
theorem map_trim_splitOn_append_blank (hsep : isBlank sep = false)
    (h : ∀ c ∈ blanks, isBlank c = true) (t : Text) :
    (splitOn sep (t ++ blanks)).map trim = (splitOn sep t).map trim := by
  have hblanks := not_mem_of_blank hsep h
  by_cases hmem : sep ∈ t
  · obtain ⟨tsal, tser, hsplit, htsal⟩ := List.eq_append_cons_of_mem (List.mem_reverse.mpr hmem)
    have hlast : sep ∉ tsal.reverse := fun hin => htsal (List.mem_reverse.mp hin)
    have hjoined : sep ∉ tsal.reverse ++ blanks := List.not_mem_append hlast hblanks
    have ht : t = tser.reverse ++ sep :: tsal.reverse := by
      have hback := congrArg List.reverse hsplit
      rw [List.reverse_reverse, List.reverse_append, List.reverse_cons, List.append_assoc] at hback
      exact hback
    rw [ht, List.append_assoc, List.cons_append, splitOn_append_cons, splitOn_append_cons,
      splitOn_of_not_mem hjoined, splitOn_of_not_mem hlast, List.map_append, List.map_append,
      List.map_singleton, List.map_singleton, trim_append_of_blank h]
  · have hjoined : sep ∉ t ++ blanks := List.not_mem_append hmem hblanks
    rw [splitOn_of_not_mem hjoined, splitOn_of_not_mem hmem, List.map_singleton,
      List.map_singleton, trim_append_of_blank h]

/-- **Trimming a text does not show in its trimmed pieces.** -/
theorem map_trim_splitOn_trim (hsep : isBlank sep = false) (t : Text) :
    (splitOn sep t.trim).map trim = (splitOn sep t).map trim := by
  obtain ⟨front, back, hsplit, hfront, hback⟩ := exists_stripWhere_eq isBlank t
  calc (splitOn sep t.trim).map trim
      = (splitOn sep (front ++ t.trim)).map trim :=
        (map_trim_splitOn_blank_append hsep hfront t.trim).symm
    _ = (splitOn sep (front ++ t.trim ++ back)).map trim :=
        (map_trim_splitOn_append_blank hsep hback _).symm
    _ = (splitOn sep t).map trim := by
        rw [trim_eq_stripWhere, ← hsplit]

end Trimmed

/-! ## Words -/

/-- **Words split at a separator.** -/
theorem words_append_cons (hc : p c = true) (a b : Text) :
    words p (a ++ c :: b) = words p a ++ words p b := by
  rw [words, splitWhere_append_cons hc, List.filter_append]
  rfl

theorem words_cons (hc : p c = true) (t : Text) : words p (c :: t) = words p t :=
  words_append_cons hc [] t

theorem words_congr (h : ∀ c ∈ t, p c = q c) : words p t = words q t := by
  rw [words, splitWhere_congr h]
  rfl

theorem words_eq_nil_iff : words p t = [] ↔ ∀ c ∈ t, p c = true := by
  constructor
  · intro h c hc
    by_contra hp
    obtain ⟨piece, hpiece, hmem⟩ := exists_mem_splitWhere_iff.mpr ⟨hc, Bool.not_eq_true _ ▸ hp⟩
    have hempty := List.filter_eq_nil_iff.mp h piece hpiece
    rw [Bool.not_eq_true, Bool.not_eq_false', List.isEmpty_iff] at hempty
    rw [hempty] at hmem
    cases hmem
  · intro h
    induction t with
    | nil => rfl
    | cons c rest ih =>
        rw [words_cons (h c List.mem_cons_self)]
        exact ih fun d hd => h d (List.mem_cons_of_mem c hd)

/-- Separators in front of a text or behind it belong to no word. -/
theorem words_append_of_left (ha : ∀ c ∈ a, p c = true) (b : Text) :
    words p (a ++ b) = words p b := by
  induction a with
  | nil => rfl
  | cons c a ih =>
      rw [List.cons_append, words_cons (ha c List.mem_cons_self)]
      exact ih fun d hd => ha d (List.mem_cons_of_mem c hd)

theorem words_append_of_right (a : Text) (hb : ∀ c ∈ b, p c = true) :
    words p (a ++ b) = words p a := by
  cases b with
  | nil => rw [List.append_nil]
  | cons c b =>
      have hrest : words p b = [] :=
        words_eq_nil_iff.mpr fun d hd => hb d (List.mem_cons_of_mem c hd)
      rw [words_append_cons (hb c List.mem_cons_self), hrest, List.append_nil]

theorem words_of_forall_not (h : ∀ c ∈ t, p c = false) (hne : t ≠ []) : words p t = [t] := by
  rw [words, splitWhere_of_forall_not h]
  exact List.filter_cons_of_pos (by simpa using hne)

/-- A separator within a text, and not at its ends, has words on either side. -/
theorem two_le_length_words (h : Stripped p t) (hmem : c ∈ t) (hc : p c = true) :
    2 ≤ (words p t).length := by
  obtain ⟨a, b, rfl⟩ := List.append_of_mem hmem
  have ha : words p a ≠ [] := by
    rw [Ne, words_eq_nil_iff]
    intro hall
    cases a with
    | nil =>
        rw [h.1 c rfl] at hc
        cases hc
    | cons d a =>
        have hd := h.1 d rfl
        rw [hall d List.mem_cons_self] at hd
        cases hd
  have hb : words p b ≠ [] := by
    rw [Ne, words_eq_nil_iff]
    intro hall
    rcases List.eq_nil_or_concat b with rfl | ⟨b, d, rfl⟩
    · rw [h.2 c (by simp)] at hc
      cases hc
    · rw [List.concat_eq_append] at h hall
      have hlast : (a ++ c :: (b ++ [d])).getLast? = some d := by
        rw [← List.cons_append, ← List.append_assoc, List.getLast?_concat]
      have hd := h.2 d hlast
      rw [hall d (by simp)] at hd
      cases hd
  have ha' := List.length_pos_iff.mpr ha
  have hb' := List.length_pos_iff.mpr hb
  rw [words_append_cons hc, List.length_append]
  omega

/-- What is found in a text and does not contain one of its characters is on one side of it. -/
theorem infix_append_cons {w : Text} (hc : c ∉ w) (hne : w ≠ []) (h : w <:+: a ++ c :: b) :
    w <:+: a ∨ w <:+: b := by
  obtain ⟨front, back, hsplit⟩ := h
  rw [List.append_assoc, List.append_eq_append_iff] at hsplit
  rcases hsplit with ⟨a', rfl, hrest⟩ | ⟨front', rfl, hrest⟩
  · rcases List.append_eq_append_iff.mp hrest with ⟨a'', rfl, -⟩ | ⟨w', rfl, hback⟩
    · exact Or.inl ⟨front, a'', List.append_assoc _ _ _⟩
    · cases w' with
      | nil => exact Or.inl ⟨front, [], by simp⟩
      | cons d w' =>
          obtain ⟨rfl, -⟩ := List.cons.inj hback
          exact absurd (List.mem_append_right a' List.mem_cons_self) hc
  · cases front' with
    | nil =>
        cases w with
        | nil => exact absurd rfl hne
        | cons d w =>
            obtain ⟨rfl, -⟩ := List.cons.inj hrest
            exact absurd List.mem_cons_self hc
    | cons d front' =>
        obtain ⟨-, rfl⟩ := List.cons.inj hrest
        exact Or.inr ⟨front', back, List.append_assoc _ _ _⟩

/-- **What holds no separator is found in a text exactly if it is found in one of its words.** -/
theorem infix_iff_exists_word {w : Text} (hw : ∀ c ∈ w, p c = false) (hne : w ≠ []) :
    w <:+: t ↔ ∃ word ∈ words p t, w <:+: word := by
  constructor
  · intro h
    induction hlength : t.length using Nat.strong_induction_on generalizing t with
    | _ n ih =>
      by_cases hsolid : ∀ c ∈ t, p c = false
      · have ht : t ≠ [] := by
          rintro rfl
          exact hne (List.infix_nil.mp h)
        exact ⟨t, by rw [words_of_forall_not hsolid ht]; exact List.mem_singleton_self t, h⟩
      · obtain ⟨c, hc, hp⟩ : ∃ c ∈ t, p c = true := by simpa using hsolid
        obtain ⟨a, b, rfl⟩ := List.append_of_mem hc
        have hout : c ∉ w := by
          intro hmem
          rw [hw c hmem] at hp
          cases hp
        rw [List.length_append, List.length_cons] at hlength
        rw [words_append_cons hp]
        rcases infix_append_cons hout hne h with hin | hin
        · obtain ⟨word, hword, hfound⟩ := ih a.length (by omega) hin rfl
          exact ⟨word, List.mem_append_left _ hword, hfound⟩
        · obtain ⟨word, hword, hfound⟩ := ih b.length (by omega) hin rfl
          exact ⟨word, List.mem_append_right _ hword, hfound⟩
  · rintro ⟨word, hword, hfound⟩
    exact hfound.trans (infix_of_mem_splitWhere (List.mem_filter.mp hword).1)

/-! ## Changes that words do not show -/

/-- Separators may be stripped off the ends. -/
theorem words_stripWhere (hq : ∀ c, q c = true → p c = true) (t : Text) :
    words p (stripWhere q t) = words p t := by
  obtain ⟨front, back, hsplit, hfront, hback⟩ := exists_stripWhere_eq q t
  calc words p (stripWhere q t)
      = words p (front ++ stripWhere q t) :=
        (words_append_of_left (fun c hc => hq c (hfront c hc)) _).symm
    _ = words p (front ++ stripWhere q t ++ back) :=
        (words_append_of_right _ fun c hc => hq c (hback c hc)).symm
    _ = words p t := by rw [← hsplit]

/-- Characters may be replaced if those of words stay and separators become separators. -/
theorem words_map {f : Char → Char} (hkeep : ∀ c, p c = false → f c = c)
    (hgap : ∀ c, p c = true → p (f c) = true) (t : Text) : words p (t.map f) = words p t := by
  -- along the text, with `a` for what stands before it in the same word
  suffices h : ∀ a : Text, words p (a ++ t.map f) = words p (a ++ t) from h []
  induction t with
  | nil => exact fun a => rfl
  | cons c rest ih =>
      intro a
      rw [List.map_cons]
      cases hc : p c with
      | true =>
          have hrest : words p (rest.map f) = words p rest := ih []
          rw [words_append_cons (hgap c hc), words_append_cons hc, hrest]
      | false =>
          rw [hkeep c hc, List.append_cons, ih (a ++ [c]), ← List.append_cons]

/-- Runs of separators may be collapsed. -/
theorem words_collapse {mark : Char} (hq : ∀ c, q c = true → p c = true) (hmark : p mark = true)
    (t : Text) : words p (collapse q mark t) = words p t := by
  -- outside a run something of the same word may stand before the text, within a run nothing does
  suffices h : (∀ a : Text, words p (a ++ collapseFrom q mark false t) = words p (a ++ t))
      ∧ words p (collapseFrom q mark true t) = words p t from h.1 []
  induction t with
  | nil => exact ⟨fun a => rfl, rfl⟩
  | cons c rest ih =>
      obtain ⟨hout, hin⟩ := ih
      cases hc : q c with
      | true =>
          have hfalse : collapseFrom q mark false (c :: rest)
              = mark :: collapseFrom q mark true rest := by
            rw [collapseFrom, if_pos hc, if_neg Bool.false_ne_true]
          have htrue : collapseFrom q mark true (c :: rest) = collapseFrom q mark true rest := by
            rw [collapseFrom, if_pos hc, if_pos rfl]
          refine ⟨fun a => ?_, ?_⟩
          · rw [hfalse, words_append_cons hmark, words_append_cons (hq c hc), hin]
          · rw [htrue, hin, words_cons (hq c hc)]
      | false =>
          have hstep : ∀ inRun, collapseFrom q mark inRun (c :: rest)
              = c :: collapseFrom q mark false rest := fun inRun => by
            rw [collapseFrom, hc, if_neg Bool.false_ne_true]
          refine ⟨fun a => ?_, ?_⟩
          · rw [hstep, List.append_cons, hout (a ++ [c]), ← List.append_cons]
          · rw [hstep]
            exact hout [c]

end LeadScreen.Text
