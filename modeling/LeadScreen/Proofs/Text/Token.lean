import LeadScreen.Proofs.Text.Caseless
import LeadScreen.Proofs.Text.Lines
import LeadScreen.Proofs.Text.Values
import LeadScreen.Proofs.Text.Words
import LeadScreen.Text.Token

set_option autoImplicit false

/-! # The tokens of a text

Tokens come out of many passes over the whole text, and one of them, lower-casing, looks at what
stands around a sigma. None of this shows: to tokens each character is what it is by itself
(`tokenView`), and the tokens are the words of what the characters are (`tokens_eq_words`). So
tokens split at blanks and commas, and how a text is trimmed, spaced or cut into values does not
bear on them.
-/

namespace LeadScreen

def isTokenGap (c : Char) : Bool :=
  !isTokenChar c

variable {c : Char}

theorem range_of_isTokenChar (h : isTokenChar c = true) : 32 < c.toNat ∧ c.toNat < 128 := by
  simp only [isTokenChar, isKeyChar, Bool.or_eq_true, Bool.and_eq_true, decide_eq_true_eq,
    beq_iff_eq] at h
  rcases h with ((((⟨hlo, hhi⟩ | ⟨hlo, hhi⟩) | rfl) | rfl) | rfl) | rfl
  · have hlo' : 97 ≤ c.toNat := hlo
    have hhi' : c.toNat ≤ 122 := hhi
    omega
  · have hlo' : 48 ≤ c.toNat := hlo
    have hhi' : c.toNat ≤ 57 := hhi
    omega
  all_goals decide

theorem isTokenGap_of_isBlank (h : isBlank c = true) : isTokenGap c = true := by
  cases htoken : isTokenChar c with
  | false => rw [isTokenGap, htoken, Bool.not_false]
  | true =>
      obtain ⟨hlo, hhi⟩ := range_of_isTokenChar htoken
      rw [isBlank_eq_false hlo hhi] at h
      cases h

/-- What stands in a token is in lower case and no ampersand. -/
theorem lower_of_isTokenChar (h : isTokenChar c = true) : lowerChar c = c ∧ c ≠ '&' := by
  have hascii : c.toNat < 128 := (range_of_isTokenChar h).2
  have hlower : c.toLower = c ∧ c ≠ '&' := by
    simp only [isTokenChar, Bool.or_eq_true, beq_iff_eq] at h
    rcases h with (((h | rfl) | rfl) | rfl) | rfl
    · obtain ⟨-, hlower, -, hamp⟩ := plain_of_isKeyChar (Or.inl h)
      exact ⟨hlower, hamp⟩
    all_goals decide
  exact ⟨by rw [lowerChar, if_pos hascii, hlower.1], hlower.2⟩

namespace Text

variable {t a b : Text}

/-! ## What a character is to tokens -/

/-- A character with a space in place of what is in no token. -/
def tokenMask (c : Char) : Char :=
  if isTokenChar c then c else ' '

/-- **What a character is to tokens**: its lower-case form, with a space for what is in no token.
The ampersand is the word *and*. -/
def tokenView (c : Char) : Text :=
  (if c = '&' then " and ".toList else if c = 'İ' then ['i', '\u0307'] else [lowerChar c]).map
    tokenMask

theorem tokenView_of_isTokenChar (h : isTokenChar c = true) : tokenView c = [c] := by
  obtain ⟨hlower, hamp⟩ := lower_of_isTokenChar h
  have hdotted : c ≠ 'İ' := by
    rintro rfl
    exact absurd h (by decide)
  rw [tokenView, if_neg hamp, if_neg hdotted, hlower, List.map_singleton, tokenMask, if_pos h]

theorem tokenView_of_isBlank (h : isBlank c = true) : tokenView c = [' '] := by
  have hamp : c ≠ '&' := by
    rintro rfl
    exact absurd h (by decide)
  have hdotted : c ≠ 'İ' := by
    rintro rfl
    exact absurd h (by decide)
  have hgap : isTokenChar c = false := by
    simpa [isTokenGap] using isTokenGap_of_isBlank h
  rw [tokenView, if_neg hamp, if_neg hdotted, CaselessClass.blanks.kept c h, List.map_singleton,
    tokenMask, hgap, if_neg Bool.false_ne_true]

/-! ## The passes before the tokens are taken -/

theorem replace_append (old : Char) (new a b : Text) :
    replace old new (a ++ b) = replace old new a ++ replace old new b :=
  List.flatMap_append

/-- Of one character, spelled out in lower case, tokens see its view: what a sigma is lowered to
depends on its place, but neither form is in a token. -/
theorem map_replace_lowerAt (afterCased : Bool) (c : Char) (rest : Text) :
    (replace '&' " and " (lowerAt afterCased c rest)).map tokenMask = tokenView c := by
  by_cases hsigma : c = 'Σ'
  · rw [lowerAt, if_pos hsigma, hsigma]
    cases afterCased && !startsCased rest <;> decide
  · by_cases hdotted : c = 'İ'
    · rw [lowerAt, if_neg hsigma, if_pos hdotted, hdotted]
      decide
    · rw [lowerAt, if_neg hsigma, if_neg hdotted, tokenView]
      by_cases hamp : c = '&'
      · rw [hamp]
        decide
      · have hlower : '&' ∉ [lowerChar c] := fun hmem =>
          hamp (eq_of_lowerChar_eq (by decide) (List.mem_singleton.mp hmem).symm)
        rw [if_neg hamp, if_neg hdotted, replace_eq_self hlower]

theorem map_replace_lowerFrom (afterCased : Bool) (t : Text) :
    (replace '&' " and " (lowerFrom afterCased t)).map tokenMask = t.flatMap tokenView := by
  induction t generalizing afterCased with
  | nil => rfl
  | cons c rest ih =>
      rw [lowerFrom, replace_append, List.map_append, map_replace_lowerAt, ih, List.flatMap_cons]

/-- Blanks around a text are gaps to tokens. -/
theorem words_flatMap_trim (t : Text) :
    words isTokenGap (t.trim.flatMap tokenView) = words isTokenGap (t.flatMap tokenView) := by
  obtain ⟨front, back, hsplit, hfront, hback⟩ := exists_stripWhere_eq isBlank t
  have hgap : ∀ {a : Text}, (∀ c ∈ a, isBlank c = true) →
      ∀ d ∈ a.flatMap tokenView, isTokenGap d = true := by
    intro a ha d hd
    obtain ⟨c, hc, hmem⟩ := List.mem_flatMap.mp hd
    rw [tokenView_of_isBlank (ha c hc), List.mem_singleton] at hmem
    rw [hmem]
    decide
  rw [trim_eq_stripWhere]
  conv_rhs => rw [hsplit]
  rw [List.flatMap_append, List.flatMap_append, words_append_of_right _ (hgap hback),
    words_append_of_left (hgap hfront)]

theorem words_folded (t : Text) :
    words isTokenGap t.folded = words isTokenGap (t.flatMap tokenView) := by
  have hkeep : ∀ c, isTokenGap c = false → tokenMask c = c := fun c hc => by
    rw [tokenMask, if_pos (by simpa [isTokenGap] using hc)]
  have hgap : ∀ c, isTokenGap c = true → isTokenGap (tokenMask c) = true := fun c hc => by
    have hno : isTokenChar c = false := by simpa [isTokenGap] using hc
    rw [tokenMask, hno, if_neg Bool.false_ne_true]
    decide
  calc words isTokenGap t.folded
      = words isTokenGap (t.folded.map tokenMask) := (words_map hkeep hgap _).symm
    _ = words isTokenGap (t.trim.flatMap tokenView) := by
        rw [folded, lower, map_replace_lowerFrom]
    _ = words isTokenGap (t.flatMap tokenView) := words_flatMap_trim t

/-! ## The plain form of a text -/

/-- The plain form holds characters of tokens and spaces. -/
theorem mem_plain (h : c ∈ t.plain) : isTokenChar c = true ∨ c = ' ' := by
  rcases mem_collapseFrom (mem_of_mem_trim h) with rfl | ⟨hkept, hblank⟩
  · exact Or.inr rfl
  · rcases mem_collapseFrom hkept with rfl | ⟨-, hforeign⟩
    · exact Or.inr rfl
    · rw [hblank, Bool.or_false, Bool.not_eq_false'] at hforeign
      exact Or.inl hforeign

theorem words_plain (t : Text) :
    words isTokenGap t.plain = words isTokenGap (t.flatMap tokenView) := by
  have hforeign : ∀ c, (!(isTokenChar c || isBlank c)) = true → isTokenGap c = true := by
    intro c hc
    rw [Bool.not_or, Bool.and_eq_true] at hc
    exact hc.1
  rw [plain, trim_eq_stripWhere, words_stripWhere fun c => isTokenGap_of_isBlank,
    words_collapse (fun c => isTokenGap_of_isBlank) (by decide),
    words_collapse hforeign (by decide), words_folded]

/-- **Tokens are words**: of what each character is to tokens. -/
theorem tokens_eq_words (t : Text) : tokens t = words isTokenGap (t.flatMap tokenView) := by
  have hspace : ∀ c ∈ t.plain, (c == ' ') = isTokenGap c := by
    intro c hc
    rcases mem_plain hc with htoken | rfl
    · have hne : c ≠ ' ' := by
        rintro rfl
        exact absurd htoken (by decide)
      rw [isTokenGap, htoken, Bool.not_true, beq_eq_false_iff_ne]
      exact hne
    · decide
  calc tokens t = words (· == ' ') t.plain := rfl
    _ = words isTokenGap t.plain := words_congr hspace
    _ = words isTokenGap (t.flatMap tokenView) := words_plain t

/-- A token is not empty and holds characters of tokens only. -/
theorem mem_tokens {token : Text} (h : token ∈ tokens t) :
    token ≠ [] ∧ ∀ c ∈ token, isTokenChar c = true := by
  rw [tokens_eq_words, words, List.mem_filter] at h
  obtain ⟨hpiece, hsome⟩ := h
  refine ⟨by simpa using hsome, fun c hc => ?_⟩
  have hgap := not_of_mem_splitWhere hpiece hc
  simpa [isTokenGap] using hgap

/-! ## Characters that give tokens -/

/-- **Whether the character gives a token**: the ASCII letters, the digits and the four marks do,
the ampersand does as a word, and the Kelvin sign and the I with a dot do by their lower-case
forms. -/
def givesToken (c : Char) : Bool :=
  isTokenChar c.toLower || c == '&' || c == '\u212A' || c == 'İ'

/-- Beyond ASCII there is no character of a token, nor, but for the Kelvin sign, a capital one. -/
theorem isTokenChar_lowerChar (hkelvin : c ≠ '\u212A') :
    isTokenChar (lowerChar c) = isTokenChar c.toLower := by
  by_cases hascii : c.toNat < 128
  · rw [lowerChar, if_pos hascii]
  · have hwide : ∀ d : Char, 128 ≤ d.toNat → isTokenChar d = false := by
      intro d hd
      by_contra htoken
      have hrange := range_of_isTokenChar (by simpa using htoken)
      omega
    have hlower : c.toLower = c := by
      rcases toLower_cases c with hself | ⟨-, hle, -⟩
      · exact hself
      · omega
    rw [hlower, hwide _ (le_toNat_lowerChar (by omega) hkelvin), hwide c (by omega)]

/-- A character gives a token exactly if something of it is left in tokens. -/
theorem givesToken_iff : givesToken c = true ↔ ∃ d ∈ tokenView c, isTokenGap d = false := by
  by_cases hamp : c = '&'
  · rw [hamp]
    exact iff_of_true (by decide) ⟨'a', by decide, by decide⟩
  · by_cases hdotted : c = 'İ'
    · rw [hdotted]
      exact iff_of_true (by decide) ⟨'i', by decide, by decide⟩
    · by_cases hkelvin : c = '\u212A'
      · rw [hkelvin]
        exact iff_of_true (by decide) ⟨'k', by decide, by decide⟩
      · have hgives : givesToken c = isTokenChar c.toLower := by
          rw [givesToken, beq_eq_false_iff_ne.mpr hamp, beq_eq_false_iff_ne.mpr hkelvin,
            beq_eq_false_iff_ne.mpr hdotted, Bool.or_false, Bool.or_false, Bool.or_false]
        have hview : tokenView c = [tokenMask (lowerChar c)] := by
          rw [tokenView, if_neg hamp, if_neg hdotted, List.map_singleton]
        rw [hgives, hview, ← isTokenChar_lowerChar hkelvin]
        simp only [List.mem_singleton, exists_eq_left]
        cases htoken : isTokenChar (lowerChar c) with
        | false =>
            rw [tokenMask, htoken, if_neg Bool.false_ne_true]
            decide
        | true =>
            rw [tokenMask, htoken, if_pos rfl, isTokenGap, htoken]
            decide

/-- **A text has no tokens exactly if none of its characters gives one.** -/
theorem tokens_eq_nil_iff : tokens t = [] ↔ ∀ c ∈ t, givesToken c = false := by
  rw [tokens_eq_words, words_eq_nil_iff]
  constructor
  · intro h c hc
    by_contra hgives
    obtain ⟨d, hd, hsolid⟩ := givesToken_iff.mp (by simpa using hgives)
    rw [h d (List.mem_flatMap.mpr ⟨c, hc, hd⟩)] at hsolid
    cases hsolid
  · intro h d hd
    obtain ⟨c, hc, hmem⟩ := List.mem_flatMap.mp hd
    by_contra hsolid
    have hgives := givesToken_iff.mpr ⟨d, hmem, by simpa using hsolid⟩
    rw [h c hc] at hgives
    cases hgives

/-! ## What tokens do not show -/

/-- **Tokens split at what is a gap to them.** -/
theorem tokens_append_cons (hc : tokenView c = [' ']) (a b : Text) :
    tokens (a ++ c :: b) = tokens a ++ tokens b := by
  rw [tokens_eq_words, tokens_eq_words a, tokens_eq_words b, List.flatMap_append,
    List.flatMap_cons, hc, List.singleton_append, words_append_cons (by decide)]

theorem tokens_cons (hc : tokenView c = [' ']) (t : Text) : tokens (c :: t) = tokens t := by
  have hnone : tokens [] = [] := rfl
  have hsplit := tokens_append_cons hc [] t
  rwa [hnone, List.nil_append, List.nil_append] at hsplit

theorem tokens_gap_append {gap : Text} (hgap : ∀ c ∈ gap, tokenView c = [' ']) (t : Text) :
    tokens (gap ++ t) = tokens t := by
  induction gap with
  | nil => rfl
  | cons c gap ih =>
      rw [List.cons_append, tokens_cons (hgap c List.mem_cons_self)]
      exact ih fun d hd => hgap d (List.mem_cons_of_mem c hd)

/-- **The tokens of texts with gaps between them** are those of the texts. -/
theorem tokens_joinWith_gap {gap : Text} (hne : gap ≠ []) (hgap : ∀ c ∈ gap, tokenView c = [' '])
    (texts : List Text) : tokens (joinWith gap texts) = texts.flatMap tokens := by
  obtain ⟨c, gap, rfl⟩ := List.exists_cons_of_ne_nil hne
  induction texts with
  | nil => rfl
  | cons t texts ih =>
      cases texts with
      | nil => rw [joinWith_singleton, List.flatMap_singleton]
      | cons next texts =>
          -- the first character of the gap parts the tokens, the others are in front of the rest
          rw [joinWith_cons_cons, List.cons_append, tokens_append_cons (hgap c List.mem_cons_self),
            tokens_gap_append fun d hd => hgap d (List.mem_cons_of_mem c hd), ih]
          exact List.flatMap_cons.symm

/-- The tokens of words in a row are those of the words. -/
theorem tokens_joinWith (words : List Text) :
    tokens (joinWith [' '] words) = words.flatMap tokens := by
  have hspace : tokenView ' ' = [' '] := by decide
  exact tokens_joinWith_gap (List.cons_ne_nil _ _)
    (fun c hc => List.mem_singleton.mp hc ▸ hspace) words

@[simp] theorem tokens_trim (t : Text) : tokens t.trim = tokens t := by
  rw [tokens_eq_words, tokens_eq_words, words_flatMap_trim]

/-- Characters that are the same to tokens may stand for each other. -/
theorem tokens_map {f : Char → Char} (hf : ∀ c, tokenView (f c) = tokenView c) (t : Text) :
    tokens (t.map f) = tokens t := by
  rw [tokens_eq_words, tokens_eq_words, List.flatMap_map]
  exact congrArg (fun view : Char → Text => words isTokenGap (t.flatMap view)) (funext hf)

/-- Tokens and spaces are to tokens what they are. -/
theorem flatMap_tokenView_eq_self (h : ∀ c ∈ t, isTokenChar c = true ∨ c = ' ') :
    t.flatMap tokenView = t := by
  have hself : ∀ c ∈ t, tokenView c = [c] := by
    intro c hc
    rcases h c hc with htoken | rfl
    · exact tokenView_of_isTokenChar htoken
    · decide
  rw [List.flatMap_congr hself, List.flatMap_singleton']

/-- A text and its plain form have the same tokens. -/
@[simp] theorem tokens_plain (t : Text) : tokens t.plain = tokens t := by
  rw [tokens_eq_words, flatMap_tokenView_eq_self fun _ => mem_plain, words_plain, ← tokens_eq_words]

/-- Nothing is left of a text in its plain form exactly if it has no tokens. -/
theorem plain_eq_nil_iff : t.plain = [] ↔ tokens t = [] := by
  constructor
  · intro h
    rw [← tokens_plain, h]
    rfl
  · intro h
    have hblank : t.plain.allBlank = true := by
      refine List.all_eq_true.mpr fun c hc => ?_
      rcases mem_plain hc with htoken | rfl
      · rw [tokens_eq_words, ← words_plain, words_eq_nil_iff] at h
        have hgap := h c hc
        rw [isTokenGap, htoken] at hgap
        cases hgap
      · decide
    have htrim : t.plain.trim = t.plain := trim_trim _
    rw [← htrim]
    exact trim_eq_nil_iff.mpr hblank

/-- Trimming values and dropping the empty ones takes no token away. -/
@[simp] theorem flatMap_tokens_tidy (values : List Text) :
    (tidy values).flatMap tokens = values.flatMap tokens := by
  have hkeep : ∀ values : List Text,
      (values.filter fun value => !value.isEmpty).flatMap tokens = values.flatMap tokens := by
    intro values
    induction values with
    | nil => rfl
    | cons value values ih =>
        cases value with
        | nil => exact ih
        | cons c value =>
            rw [List.filter_cons_of_pos (by rfl), List.flatMap_cons, List.flatMap_cons, ih]
  rw [tidy, hkeep, List.flatMap_map]
  simp only [tokens_trim]

/-- Cutting a text into values at its commas takes no token apart and loses none. -/
theorem flatMap_tokens_commaValues (t : Text) : (commaValues t).flatMap tokens = tokens t := by
  have hcomma : ∀ c a b, (c == ',') = true → tokens (a ++ c :: b) = tokens a ++ tokens b := by
    intro c a b hc
    obtain rfl := eq_of_beq hc
    exact tokens_append_cons (by decide) a b
  calc (commaValues t).flatMap tokens
      = (splitOn ',' t).flatMap tokens := flatMap_tokens_tidy (splitOn ',' t)
    _ = tokens t := flatMap_splitWhere hcomma t

/-- The values of a key hold the tokens of its text, whether it is cut at commas or not. -/
theorem flatMap_tokens_valuesFor (key t : Text) : (valuesFor key t).flatMap tokens = tokens t := by
  unfold valuesFor
  split
  · exact flatMap_tokens_commaValues t
  · rw [List.flatMap_singleton, tokens_trim]

end Text

end LeadScreen
