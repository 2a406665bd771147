import LeadScreen.Proofs.Markup.Run
import LeadScreen.Proofs.Text.Key

set_option autoImplicit false

/-! # Markup as it is written

Markup in its simplest form is text between tags without attributes (`Written`). It is read as
what it was written from, in one pass: `tokens_of_written`.
-/

namespace LeadScreen.Markup

variable {name content rest t : Text} {ts : List Token} {final : Bool} {c : Char}

/-- **The simplest names of elements**: a small letter, then small letters and digits. -/
structure SimpleName (name : Text) : Prop where
  letter : ∃ c ∈ name.head?, c.isAlpha = true
  chars : ∀ c ∈ name, isKeyChar c = true

/-- **Tokens written out**: `Written tokens t` says that the text consists of text without
ampersands and opening brackets, of start tags and of end tags, in this order. No two stretches of
text stand side by side, and no element has raw content. -/
inductive Written : List Token → Text → Prop where
  | nil : Written [] []
  | text {content rest : Text} {ts : List Token} (hne : content ≠ [])
      (hplain : ∀ c ∈ content, opensConstruct c = false)
      (hrest : ∀ c ∈ rest.head?, opensConstruct c = true) (h : Written ts rest) :
      Written (.text content :: ts) (content ++ rest)
  | startTag {name rest : Text} {ts : List Token} (hname : SimpleName name)
      (hraw : name ∉ Token.rawElements) (h : Written ts rest) :
      Written (.startTag name false :: ts) ('<' :: (name ++ '>' :: rest))
  | endTag {name rest : Text} {ts : List Token} (hname : SimpleName name) (h : Written ts rest) :
      Written (.endTag name :: ts) ('<' :: '/' :: (name ++ '>' :: rest))

/-! ## Names -/

theorem SimpleName.exists_cons (h : SimpleName name) :
    ∃ first tail, name = first :: tail ∧ first.isAlpha = true := by
  obtain ⟨c, hc, hletter⟩ := h.letter
  cases name with
  | nil => cases hc
  | cons first tail =>
      obtain rfl := Option.some.inj hc
      exact ⟨first, tail, rfl, hletter⟩

/-- A character of a name ends neither tags nor names, and has no other lower-case form. -/
theorem SimpleName.char (h : SimpleName name) (hc : c ∈ name) :
    c ≠ '>' ∧ endsTagName c = false ∧ isEndTagChar c = true ∧ c.toNat < 128 ∧ c.toLower = c := by
  have hkey := h.chars c hc
  obtain ⟨hascii, hlower, -, -⟩ := plain_of_isKeyChar (Or.inl hkey)
  have hends : endsTagName c = false := by
    rw [Bool.eq_false_iff]
    intro hends
    simp only [endsTagName, Bool.or_eq_true, beq_iff_eq] at hends
    rcases hends with ((((((rfl | rfl) | rfl) | rfl) | rfl) | rfl) | rfl) | rfl <;>
      exact absurd hkey (by decide)
  have hne : c ≠ '>' := by
    rintro rfl
    exact absurd hkey (by decide)
  refine ⟨hne, hends, ?_, hascii, hlower⟩
  have halnum : c.isAlphanum = true := by
    simp only [isKeyChar, Bool.or_eq_true, Bool.and_eq_true, decide_eq_true_eq] at hkey
    show ((c.isUpper || c.isLower) || c.isDigit) = true
    rcases hkey with ⟨hlo, hhi⟩ | ⟨hlo, hhi⟩
    · have hletter : c.isLower = true :=
        Bool.and_eq_true_iff.mpr ⟨decide_eq_true hlo, decide_eq_true hhi⟩
      rw [hletter, Bool.or_true, Bool.true_or]
    · have hdigit : c.isDigit = true :=
        Bool.and_eq_true_iff.mpr ⟨decide_eq_true hlo, decide_eq_true hhi⟩
      rw [hdigit, Bool.or_true]
  rw [isEndTagChar, halnum]
  rfl

theorem SimpleName.lower_eq_self (h : SimpleName name) : Text.lower name = name :=
  Text.lowerFrom_eq_self fun _ hc => (h.char hc).2.2.2

/-! ## One token -/

/-- Text is read up to the next tag. -/
theorem readFrom_text (hne : content ≠ []) (hplain : ∀ c ∈ content, opensConstruct c = false)
    (hrest : ∀ c ∈ rest.head?, opensConstruct c = true) :
    readFrom final none (content ++ rest)
      = (readFrom final none rest).map (Reading.after [.text content]) := by
  cases content with
  | nil => exact absurd rfl hne
  | cons c tail =>
      have hc := hplain c List.mem_cons_self
      have hamp : c ≠ '&' := by
        rintro rfl
        exact absurd hc (by decide)
      have hbracket : c ≠ '<' := by
        rintro rfl
        exact absurd hc (by decide)
      have htail : ∀ d ∈ tail, (!opensConstruct d) = true := fun d hd => by
        rw [hplain d (List.mem_cons_of_mem c hd), Bool.not_false]
      have hnext : ∀ d ∈ rest.head?, (!opensConstruct d) = false := fun d hd => by
        rw [hrest d hd, Bool.not_true]
      obtain ⟨hrun, hleft⟩ := Text.run_iff.mpr ⟨rfl, htail, hnext⟩
      rw [List.cons_append, readFrom_next (readStep.eq_4 final c (tail ++ rest) hamp hbracket),
        hrun, hleft]
      rfl

theorem startTagEnd_of_simpleName (h : SimpleName name) (rest : Text) :
    startTagEnd (name ++ '>' :: rest) = .closed [] false rest
      ∧ tagName (name ++ '>' :: rest) = name := by
  have hchars : ∀ c ∈ name, (!endsTagName c) = true := fun c hc => by
    rw [(h.char hc).2.1, Bool.not_false]
  have hend : ∀ c ∈ ('>' :: rest).head?, (!endsTagName c) = false := fun c hc => by
    obtain rfl := Option.some.inj hc
    rfl
  obtain ⟨hrun, hleft⟩ := Text.run_iff.mpr ⟨rfl, hchars, hend⟩
  have hfiller : skipFiller ('>' :: rest) = '>' :: rest := by
    rw [skipFiller]
    rfl
  refine ⟨?_, hrun⟩
  rw [startTagEnd, hleft, hfiller, readTagEnd]
  rfl

theorem readStartTag_of_simpleName (h : SimpleName name) (rest : Text)
    (shorter : rest.length < ('<' :: (name ++ '>' :: rest)).length) :
    readStartTag final (name ++ '>' :: rest)
      = .ok (.next [.startTag name false] rest shorter) := by
  obtain ⟨hend, htag⟩ := startTagEnd_of_simpleName h rest
  unfold readStartTag
  split
  · rename_i values selfClosing behind hclosed
    rw [hend] at hclosed
    cases hclosed
    simp only [List.findSome?_nil, htag, h.lower_eq_self]
  · rename_i hunfinished
    rw [hend] at hunfinished
    cases hunfinished
  · rename_i hbroken
    rw [hend] at hbroken
    cases hbroken

/-- A start tag is read as a whole. -/
theorem readFrom_startTag (hname : SimpleName name) (hraw : name ∉ Token.rawElements)
    (rest : Text) : readFrom final none ('<' :: (name ++ '>' :: rest))
      = (readFrom final none rest).map (Reading.after [.startTag name false]) := by
  have shorter : rest.length < ('<' :: (name ++ '>' :: rest)).length := by
    rw [List.length_cons, List.length_append, List.length_cons]
    omega
  obtain ⟨first, tail, rfl, hletter⟩ := hname.exists_cons
  have hkey := hname.chars first List.mem_cons_self
  -- a letter is no mark that stands behind a bracket
  have hmark : ∀ d : Char, isKeyChar d = false → first ≠ d := by
    rintro d hd rfl
    rw [hd] at hkey
    cases hkey
  have hstep : readStep final ('<' :: (first :: tail ++ '>' :: rest))
      = .ok (.next [.startTag (first :: tail) false] rest shorter) := by
    show readBracket final (first :: (tail ++ '>' :: rest)) = _
    rw [readBracket.eq_7 final first _ (hmark '/' (by decide))
      (fun _ h => absurd h (hmark '!' (by decide))) (fun _ h => absurd h (hmark '!' (by decide)))
      (hmark '!' (by decide)) (hmark '?' (by decide)), if_pos hletter]
    exact readStartTag_of_simpleName hname rest shorter
  have hopens : [Token.startTag (first :: tail) false].getLast?.bind Token.opensRaw? = none := by
    show Token.opensRaw? (.startTag (first :: tail) false) = none
    rw [Token.opensRaw?, if_neg (by simpa using hraw)]
  rw [readFrom_next hstep, hopens]

theorem readEndTag_of_simpleName (h : SimpleName name) : readEndTag name = .element name := by
  have hbody : name.trimStart = name := by
    refine Text.dropWhile_eq_self fun c hc => ?_
    obtain ⟨-, -, hblank, -⟩ :=
      plain_of_isKeyChar (Or.inl (h.chars c (List.mem_of_mem_head? hc)))
    exact hblank
  obtain ⟨hrun, hleft⟩ := Text.run_iff.mpr
    ⟨(List.append_nil name).symm, fun c hc => (h.char hc).2.2.1, nofun⟩
  obtain ⟨first, tail, hcons, hletter⟩ := h.exists_cons
  have hhead : (name.head?.map Char.isAlpha).getD false = true := by
    rw [hcons, List.head?_cons, Option.map_some, Option.getD_some, hletter]
  have hblank : Text.allBlank [] = true := rfl
  unfold readEndTag
  simp only [hbody, hleft, hhead, hblank, Bool.and_self, if_true, hrun, h.lower_eq_self]

/-- So is an end tag. -/
theorem readFrom_closing (hname : SimpleName name) (rest : Text) :
    readFrom final none ('<' :: '/' :: (name ++ '>' :: rest))
      = (readFrom final none rest).map (Reading.after [.endTag name]) := by
  have shorter : rest.length < ('<' :: '/' :: (name ++ '>' :: rest)).length := by
    rw [List.length_cons, List.length_cons, List.length_append, List.length_cons]
    omega
  have hcut : Text.cut? '>' (name ++ '>' :: rest) = some (name, rest) :=
    Text.cut?_eq_some_iff.mpr ⟨rfl, fun hmem => (hname.char hmem).1 rfl⟩
  have hclosing : readClosing final (name ++ '>' :: rest) = .next [.endTag name] rest shorter := by
    unfold readClosing
    split
    · rename_i inside behind hfound
      rw [hcut] at hfound
      cases hfound
      simp only [readEndTag_of_simpleName hname]
    · rename_i hfound
      rw [hcut] at hfound
      cases hfound
  have hstep : readStep final ('<' :: '/' :: (name ++ '>' :: rest))
      = .ok (.next [.endTag name] rest shorter) := congrArg Except.ok hclosing
  rw [readFrom_next hstep]
  rfl

/-! ## All tokens -/

theorem readFrom_of_written (h : Written ts t) : readFrom final none t = .ok ⟨ts, none, []⟩ := by
  induction h with
  | nil => exact readFrom_stop rfl
  | text hne hplain hrest _ ih =>
      rw [readFrom_text hne hplain hrest, ih]
      rfl
  | startTag hname hraw _ ih =>
      rw [readFrom_startTag hname hraw, ih]
      rfl
  | endTag hname _ ih =>
      rw [readFrom_closing hname, ih]
      rfl

/-- **Markup is read as what it was written from.** -/
theorem tokens_of_written (h : Written ts t) : tokens t = .ok ts := by
  have hsecond : readFrom true none [] = .ok ⟨[], none, []⟩ := readFrom_of_written .nil
  rw [tokens, readFrom_of_written h]
  show (readFrom true none []).bind _ = _
  rw [hsecond]
  exact congrArg Except.ok (by simp)

end LeadScreen.Markup
