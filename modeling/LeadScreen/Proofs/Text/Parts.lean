import LeadScreen.Proofs.Text.Token

set_option autoImplicit false

/-! # Texts in parts

A key is groups of letters and digits, a title in plain form is tokens, and in either one separator
stands between neighbours (`Text.InParts`). Nothing else has to be known of the passes that make a
key or a plain form: a text whose separators stand apart and not at its ends is its words, joined
again (`Text.Apart.joinWith_words`). So the keys are exactly the texts in parts, and taking the key
leaves these alone (`Text.key_onto_normal_form`), and tokens and plain form are two ways to write
the same (`Text.tokens_and_plain_agree`).
-/

namespace LeadScreen.Text

variable {p : Char → Bool} {sep c : Char} {t part : Text}

/-- A part is not empty and holds characters of its class only. -/
def IsPart (p : Char → Bool) (part : Text) : Prop :=
  part ≠ [] ∧ ∀ c ∈ part, p c = true

/-- **A text in parts**: parts with one separator between neighbours. The empty text has none. -/
def InParts (p : Char → Bool) (sep : Char) (t : Text) : Prop :=
  ∃ parts : List Text, (∀ part ∈ parts, IsPart p part) ∧ t = joinWith [sep] parts

/-- **Separators stand apart**: no two side by side, and none at the ends. -/
structure Apart (sep : Char) (t : Text) : Prop where
  between : t.IsChain fun a b => a = sep → b ≠ sep
  ends : Stripped (· == sep) t

/-! ## Splitting and joining again -/

theorem splitOn_eq (sep : Char) (t : Text) : splitOn sep t = List.splitOn sep t := by
  show splitWhere (· == sep) t = List.splitOnP (· == sep) t
  induction t with
  | nil => rfl
  | cons c rest ih =>
      rw [List.splitOnP_cons_eq_if_modifyHead, ← ih]
      cases hc : c == sep with
      | true => rw [splitWhere_cons_of_pos (p := (· == sep)) hc, if_pos rfl]
      | false =>
          obtain ⟨first, pieces, hrest, hall⟩ := splitWhere_cons_of_not (p := (· == sep)) hc rest
          rw [hall, hrest, if_neg Bool.false_ne_true, List.modifyHead_cons]

theorem joinWith_splitOn (sep : Char) (t : Text) : joinWith [sep] (splitOn sep t) = t := by
  rw [splitOn_eq]
  exact List.intercalate_splitOn sep

/-- Where separators stand apart and not at the end, no piece but the first can be empty. -/
theorem ne_nil_of_mem_tail_splitOn (hbetween : t.IsChain fun a b => a = sep → b ≠ sep)
    (hlast : ∀ c ∈ t.getLast?, c ≠ sep) : ∀ piece ∈ (splitOn sep t).tail, piece ≠ [] := by
  induction t with
  | nil => exact nofun
  | cons c rest ih =>
      obtain ⟨hnext, hrest⟩ := List.isChain_cons.mp hbetween
      have htail := ih hrest fun d hd => hlast d (by rw [List.getLast?_cons, hd]; rfl)
      cases hc : c == sep with
      | true =>
          -- behind a separator a piece begins, with a character that is none
          obtain rfl := eq_of_beq hc
          cases rest with
          | nil => exact absurd rfl (hlast c rfl)
          | cons d rest =>
              have hd : (d == c) = false := beq_eq_false_iff_ne.mpr (hnext d rfl rfl)
              obtain ⟨first, pieces, -, hall⟩ := splitWhere_cons_of_not (p := (· == c)) hd rest
              rw [splitOn, hall] at htail
              rw [splitOn, splitWhere_cons_of_pos (p := (· == c)) hc, hall]
              intro piece hpiece
              rcases List.mem_cons.mp hpiece with rfl | hpiece
              · exact List.cons_ne_nil d first
              · exact htail piece hpiece
      | false =>
          obtain ⟨first, pieces, hsplit, hall⟩ := splitWhere_cons_of_not (p := (· == sep)) hc rest
          rw [splitOn, hsplit] at htail
          rw [splitOn, hall]
          exact htail

namespace Apart

/-- No piece is empty, so that every piece is a word. -/
theorem words_eq_splitOn (h : Apart sep t) (hne : t ≠ []) : words (· == sep) t = splitOn sep t := by
  obtain ⟨c, rest, rfl⟩ := List.exists_cons_of_ne_nil hne
  -- the first piece begins with the first character, which is no separator
  obtain ⟨first, pieces, -, hall⟩ := splitWhere_cons_of_not (p := (· == sep)) (h.ends.1 c rfl) rest
  have htail := ne_nil_of_mem_tail_splitOn h.between fun d hd => ne_of_beq_false (h.ends.2 d hd)
  rw [splitOn, hall] at htail
  refine List.filter_eq_self.mpr fun piece hpiece => ?_
  have hpiece_ne : piece ≠ [] := by
    rw [hall] at hpiece
    rcases List.mem_cons.mp hpiece with rfl | hpiece
    · exact List.cons_ne_nil c first
    · exact htail piece hpiece
  simpa using hpiece_ne

/-- **A text is its words, joined again**, where separators stand apart. -/
theorem joinWith_words (h : Apart sep t) : joinWith [sep] (words (· == sep) t) = t := by
  cases t with
  | nil => rfl
  | cons c rest => rw [h.words_eq_splitOn (List.cons_ne_nil c rest), joinWith_splitOn]

theorem of_not_mem (h : sep ∉ t) : Apart sep t := by
  have hne : ∀ c ∈ t, c ≠ sep := fun c hc => ne_of_mem_of_not_mem hc h
  refine ⟨?_, fun c hc => ?_, fun c hc => ?_⟩
  · refine (List.pairwise_of_forall_mem_list fun a ha b _ hab => ?_).isChain
    exact absurd hab (hne a ha)
  · simpa using hne c (List.mem_of_mem_head? hc)
  · simpa using hne c (List.mem_of_mem_getLast? hc)

/-- A part goes before a text with a separator between the two. -/
theorem append_cons (hpart : sep ∉ part) (hne : part ≠ []) (h : Apart sep t) (ht : t ≠ []) :
    Apart sep (part ++ sep :: t) := by
  refine ⟨?_, fun c hc => ?_, fun c hc => ?_⟩
  · refine List.isChain_append.mpr ⟨(of_not_mem hpart).between, ?_, fun a ha b _ hab => ?_⟩
    · exact List.isChain_cons.mpr ⟨fun d hd _ => ne_of_beq_false (h.ends.1 d hd), h.between⟩
    · exact absurd (hab ▸ List.mem_of_mem_getLast? ha) hpart
  · rw [List.head?_append_of_ne_nil _ hne] at hc
    exact (of_not_mem hpart).ends.1 c hc
  · rw [List.getLast?_append_of_ne_nil _ (List.cons_ne_nil sep t),
      List.getLast?_cons_of_ne_nil ht] at hc
    exact h.ends.2 c hc

end Apart

/-! ## Texts in parts -/

theorem IsPart.not_mem (h : IsPart p part) (hsep : p sep = false) : sep ∉ part := by
  intro hmem
  rw [h.2 sep hmem] at hsep
  cases hsep

theorem InParts.apart (h : InParts p sep t) (hsep : p sep = false) : Apart sep t := by
  obtain ⟨parts, hparts, rfl⟩ := h
  -- along the parts, each put before the text that the others make up
  induction parts with
  | nil => exact Apart.of_not_mem List.not_mem_nil
  | cons part parts ih =>
      have hpart := hparts part List.mem_cons_self
      cases parts with
      | nil =>
          rw [joinWith_singleton]
          exact Apart.of_not_mem (hpart.not_mem hsep)
      | cons next parts =>
          have hrest : joinWith [sep] (next :: parts) ≠ [] := by
            obtain ⟨d, hd⟩ := List.exists_mem_of_ne_nil next (hparts next (by simp)).1
            exact List.ne_nil_of_mem (mem_joinWith_of_mem [sep] List.mem_cons_self hd)
          have hapart := ih fun other hother => hparts other (List.mem_cons_of_mem part hother)
          rw [joinWith_cons_cons]
          exact Apart.append_cons (hpart.not_mem hsep) hpart.1 hapart hrest

theorem InParts.chars (h : InParts p sep t) : ∀ c ∈ t, p c = true ∨ c = sep := by
  obtain ⟨parts, hparts, rfl⟩ := h
  intro c hc
  rcases mem_joinWith hc with hsep | ⟨part, hpart, hmem⟩
  · exact Or.inr (List.mem_singleton.mp hsep)
  · exact Or.inl ((hparts part hpart).2 c hmem)

/-- The words of such a text are parts. -/
theorem isPart_of_mem_words (hchars : ∀ c ∈ t, p c = true ∨ c = sep)
    (hpart : part ∈ words (· == sep) t) : IsPart p part := by
  obtain ⟨hpiece, hsome⟩ := List.mem_filter.mp hpart
  refine ⟨by simpa using hsome, fun c hc => ?_⟩
  have hne : (c == sep) = false := not_of_mem_splitWhere (p := (· == sep)) hpiece hc
  exact (hchars c ((infix_of_mem_splitWhere hpiece).subset hc)).resolve_right (ne_of_beq_false hne)

/-- **A text is in parts** exactly if it holds characters of parts and separators, these apart. -/
theorem inParts_iff (hsep : p sep = false) :
    InParts p sep t ↔ (∀ c ∈ t, p c = true ∨ c = sep) ∧ Apart sep t := by
  constructor
  · intro h
    exact ⟨h.chars, h.apart hsep⟩
  · rintro ⟨hchars, hapart⟩
    exact ⟨words (· == sep) t, fun part => isPart_of_mem_words hchars, hapart.joinWith_words.symm⟩

/-! ## Keys -/

theorem normalKey_iff_inParts : NormalKey t ↔ InParts isKeyChar '_' t := by
  rw [inParts_iff (by decide)]
  constructor
  · intro h
    exact ⟨h.chars, h.apart, h.ends⟩
  · rintro ⟨hchars, hapart⟩
    exact ⟨hchars, hapart.between, hapart.ends⟩

theorem key_eq_self_iff : t.key = t ↔ InParts isKeyChar '_' t := by
  rw [← normalKey_iff_inParts]
  constructor
  · intro h
    rw [← h]
    exact normalKey_key t
  · exact NormalKey.key_eq_self

/-- **Taking the key leads onto the normal form.** Every key is groups of lower-case letters and
digits with single underscores between them, or empty, and the texts of this form are exactly those
that are their own keys. So the key of a key is the key itself, and no key holds a blank or one of
the characters at which requisitions are cut. -/
theorem key_onto_normal_form (t : Text) :
    InParts isKeyChar '_' t.key ∧ (t.key = t ↔ InParts isKeyChar '_' t) ∧ t.key.key = t.key
      ∧ (':' ∉ t.key ∧ '|' ∉ t.key ∧ ',' ∉ t.key) ∧ t.key.any isBlank = false := by
  have hkey : NormalKey t.key := normalKey_key t
  have hblank : t.key.any isBlank = false := by
    rw [List.any_eq_false]
    intro c hc
    simp [(plain_of_isKeyChar (hkey.chars c hc)).2.2.1]
  refine ⟨normalKey_iff_inParts.mp hkey, key_eq_self_iff, key_key t, ⟨?_, ?_, ?_⟩, hblank⟩
  all_goals exact hkey.not_mem (by decide) (by decide)

example : key "R&D -- Größe, (EMEA)".toList = "r_and_d_gr_e_emea".toList := by decide +kernel

/-! ## Tokens and the plain form -/

/-- In the plain form single spaces stand between tokens. -/
theorem apart_plain (t : Text) : Apart ' ' t.plain where
  between := List.IsChain.infix (isChain_collapseFrom (by decide) false _).1 (trim_isInfix _)
  ends := by
    have hends : Stripped isBlank t.plain := stripped_stripWhere isBlank _
    have hspace : ∀ c, isBlank c = false → (c == ' ') = false := by
      intro c hc
      rw [beq_eq_false_iff_ne]
      rintro rfl
      exact absurd hc (by decide)
    exact ⟨fun c hc => hspace c (hends.1 c hc), fun c hc => hspace c (hends.2 c hc)⟩

/-- **The plain form of a text is its tokens, joined by spaces.** -/
theorem joinWith_tokens (t : Text) : joinWith [' '] (tokens t) = t.plain :=
  (apart_plain t).joinWith_words

@[simp] theorem plain_plain (t : Text) : t.plain.plain = t.plain := by
  calc t.plain.plain = joinWith [' '] (tokens t.plain) := (joinWith_tokens t.plain).symm
    _ = joinWith [' '] (tokens t) := by rw [tokens_plain]
    _ = t.plain := joinWith_tokens t

/-- A part is one token. -/
theorem IsPart.tokens_eq (h : IsPart isTokenChar part) : tokens part = [part] := by
  have hview : part.flatMap tokenView = part :=
    flatMap_tokenView_eq_self fun c hc => Or.inl (h.2 c hc)
  have hsolid : ∀ c ∈ part, isTokenGap c = false := by
    intro c hc
    rw [isTokenGap, h.2 c hc, Bool.not_true]
  rw [tokens_eq_words, hview, words_of_forall_not hsolid h.1]

/-- **Tokens that are joined by blanks are found again.** -/
theorem tokens_joinWith_blank {gap : Text} {parts : List Text} (hne : gap ≠ [])
    (hgap : ∀ c ∈ gap, isBlank c = true) (h : ∀ part ∈ parts, IsPart isTokenChar part) :
    tokens (joinWith gap parts) = parts := by
  rw [tokens_joinWith_gap hne fun c hc => tokenView_of_isBlank (hgap c hc),
    List.flatMap_congr fun part hpart => (h part hpart).tokens_eq, List.flatMap_singleton']

/-- **Tokens and the plain form are two ways to write the same.** The tokens of a text hold nothing
but lower-case letters, digits and the four marks, and are not empty; joined by spaces they are the
plain form, which is its own plain form. The other way round, any such tokens are found in the text
that they make up when they are joined by blanks, of whatever kind and number. -/
theorem tokens_and_plain_agree :
    (∀ t, (∀ token ∈ tokens t, IsPart isTokenChar token) ∧ joinWith [' '] (tokens t) = t.plain
        ∧ t.plain.plain = t.plain)
      ∧ ∀ (gap : Text) (parts : List Text), gap ≠ [] → (∀ c ∈ gap, isBlank c = true) →
        (∀ part ∈ parts, IsPart isTokenChar part) → tokens (joinWith gap parts) = parts :=
  ⟨fun t => ⟨fun _ => mem_tokens, joinWith_tokens t, plain_plain t⟩,
    fun _ _ hne hgap hparts => tokens_joinWith_blank hne hgap hparts⟩

/-- A line break and a no-break space between tokens. -/
theorem tokens_and_plain_agree_on_wide_gap :
    tokens (joinWith ['\n', '\u00A0'] ["sr.".toList, "c++".toList, "qa/ops".toList])
        = ["sr.".toList, "c++".toList, "qa/ops".toList]
      ∧ joinWith [' '] (tokens "Sr. C++, QA/Ops".toList) = plain "Sr. C++, QA/Ops".toList := by
  have hparts : ∀ part ∈ ["sr.".toList, "c++".toList, "qa/ops".toList],
      IsPart isTokenChar part := by
    have hall : (["sr.".toList, "c++".toList, "qa/ops".toList].all fun part =>
        !part.isEmpty && part.all isTokenChar) = true := by decide +kernel
    intro part hpart
    simpa [IsPart] using List.all_eq_true.mp hall part hpart
  have hgap : ∀ c ∈ ['\n', '\u00A0'], isBlank c = true := blank_of_allBlank (by decide)
  exact ⟨tokens_and_plain_agree.2 ['\n', '\u00A0'] _ (by decide) hgap hparts,
    (tokens_and_plain_agree.1 "Sr. C++, QA/Ops".toList).2.1⟩

end LeadScreen.Text
