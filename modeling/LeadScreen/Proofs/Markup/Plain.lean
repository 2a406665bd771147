import LeadScreen.Proofs.Markup.Run

set_option autoImplicit false

/-! # Markup that is never refused

Reading drops text from the front and nowhere else, so what a run arrives at is an end of the text
(`Arrives.suffix`), and whatever offends has its characters from there. Two stretches are telling:
the opening of a marked section, and a decimal reference of too many digits. A text without them is
read, whatever else is wrong with it (`exists_tokens_of_plain`).
-/

namespace LeadScreen.Markup

variable {t : Text} {final : Bool} {p q : Place} {e : Error}

/-! ## What a construct leaves -/

/-- What is left behind a construct, or where reading stops. -/
def Step.rest : Step t → Text
  | .next _ rest _ => rest
  | .stop _ rest => rest

theorem readUnfinished_suffix (final : Bool) (t : Text) :
    (readUnfinished final t).rest <:+ '<' :: t := by
  unfold readUnfinished
  split
  · split
    · rename_i hcut
      exact (Text.suffix_of_cut? hcut).trans (List.suffix_cons _ t)
    · split
      · exact (List.dropWhile_suffix _).trans (List.suffix_cons _ t)
      · exact List.suffix_cons _ t
  · exact List.suffix_refl _

theorem readHidden_suffix (final : Bool) (mark : Char) (t : Text) :
    (readHidden final mark t).rest <:+ '<' :: mark :: t := by
  unfold readHidden
  split
  · rename_i hcut
    exact (Text.suffix_of_cut? hcut).trans ⟨['<', mark], rfl⟩
  · exact readUnfinished_suffix _ _

theorem readComment_suffix (final : Bool) (t : Text) :
    (readComment final t).rest <:+ '<' :: '!' :: '-' :: '-' :: t := by
  unfold readComment
  split
  · rename_i hcut
    exact (suffix_of_cutAtClose? hcut).trans ⟨['<', '!', '-', '-'], rfl⟩
  · exact readUnfinished_suffix _ _

theorem readClosing_suffix (final : Bool) (t : Text) :
    (readClosing final t).rest <:+ '<' :: '/' :: t := by
  unfold readClosing
  split
  · rename_i hcut
    have hrest := (Text.suffix_of_cut? hcut).trans ⟨['<', '/'], rfl⟩
    dsimp only
    split <;> exact hrest
  · exact readUnfinished_suffix _ _

theorem suffix_of_readMarked {s : Step ('<' :: '!' :: '[' :: t)} (h : readMarked final t = .ok s) :
    s.rest <:+ '<' :: '!' :: '[' :: t := by
  unfold readMarked at h
  split at h
  · cases h
  · rename_i hread
    cases h
    exact (suffix_of_readSection hread).trans ⟨['<', '!', '['], rfl⟩
  · cases h
    exact readUnfinished_suffix _ _

theorem suffix_of_readStartTag {s : Step ('<' :: t)} (h : readStartTag final t = .ok s) :
    s.rest <:+ '<' :: t := by
  unfold readStartTag at h
  split at h
  · rename_i values selfClosing rest hend
    have hrest : rest <:+ t := suffix_of_startTagEnd (by rw [hend]; rfl)
    split at h
    · cases h
    · cases h
      exact hrest.trans (List.suffix_cons _ t)
  · cases h
    exact readUnfinished_suffix _ _
  · rename_i rest hend
    have hrest : rest <:+ t := suffix_of_startTagEnd (by rw [hend]; rfl)
    cases h
    exact hrest.trans (List.suffix_cons _ t)

theorem suffix_of_readAmpersand {s : Step ('&' :: t)} (h : readAmpersand final t = .ok s) :
    s.rest <:+ '&' :: t := by
  unfold readAmpersand at h
  split at h
  · cases h
    exact List.suffix_refl _
  · rename_i number
    split at h
    · rename_i rest hrest
      cases htext : (readNumber number).text with
      | error e =>
          rw [htext] at h
          cases h
      | ok text =>
          rw [htext] at h
          cases h
          exact (suffix_of_readNumber hrest).trans ⟨['&', '#'], rfl⟩
    · split at h
      · cases h
        exact ⟨['&', '#'], rfl⟩
      · cases h
        exact List.suffix_refl _
  · rename_i c tail _
    split at h
    · rename_i rest hrest
      cases htext : (readName (c :: tail)).text with
      | error e =>
          rw [htext] at h
          cases h
      | ok text =>
          rw [htext] at h
          cases h
          exact (suffix_of_readName hrest).trans (List.suffix_cons _ _)
    · split at h
      · split at h
        · cases h
          exact List.suffix_cons _ _
        · cases h
          exact List.suffix_refl _
      · cases h
        exact List.suffix_cons _ _

theorem suffix_of_readBracket {s : Step ('<' :: t)} (h : readBracket final t = .ok s) :
    s.rest <:+ '<' :: t := by
  unfold readBracket at h
  split at h
  · cases h
    exact List.suffix_refl _
  · cases h
    exact readClosing_suffix _ _
  · cases h
    exact readComment_suffix _ _
  · exact suffix_of_readMarked h
  · cases h
    exact readHidden_suffix _ _ _
  · cases h
    exact readHidden_suffix _ _ _
  · split at h
    · exact suffix_of_readStartTag h
    · cases h
      exact List.suffix_cons _ _

/-- **A construct leaves an end of the text**, whether it is read or reading stops within it. -/
theorem suffix_of_readStep {s : Step t} (h : readStep final t = .ok s) : s.rest <:+ t := by
  unfold readStep at h
  split at h
  · cases h
    exact List.suffix_refl _
  · exact suffix_of_readAmpersand h
  · exact suffix_of_readBracket h
  · cases h
    exact (List.dropWhile_suffix _).trans (List.suffix_cons _ _)

/-! ## What a run leaves -/

theorem Moves.suffix (h : Moves p q) : q.left <:+ p.left := by
  cases h with
  | construct hstep => exact suffix_of_readStep hstep
  | @endTag _ _ t _ _ _ hcut _ | @content _ _ t _ _ _ hcut _ =>
      cases t with
      | nil => cases hcut
      | cons c t => exact (suffix_of_cutRaw? hcut).trans (List.suffix_cons c t)
  | again hstep => exact suffix_of_readStep hstep
  | againRaw hcut => exact List.suffix_refl _

theorem Arrives.suffix (h : Arrives p q) : q.left <:+ p.left := by
  induction h with
  | refl => exact List.suffix_refl _
  | tail _ hmove ih => exact hmove.suffix.trans ih

/-! ## What stands where markup is refused -/

theorem closed_of_withValue {value rest : Text} {tail : TagEnd} {values : List Text}
    {selfClosing : Bool} (h : tail.withValue value = .closed values selfClosing rest) :
    ∃ others, tail = .closed others selfClosing rest ∧ values = value :: others := by
  cases tail with
  | closed others selfClosing' rest' =>
      cases h
      exact ⟨others, rfl, rfl⟩
  | unfinished | broken => cases h

/-- The value of an attribute stands in its tag. -/
theorem infix_of_readTagEnd {gap selfClosing : Bool} {t rest value : Text} {values : List Text}
    (h : readTagEnd gap t = .closed values selfClosing rest) (hvalue : value ∈ values) :
    value <:+: t := by
  fun_induction readTagEnd gap t generalizing values with
  | case1 => cases h
  | case2 | case3 =>
      cases h
      cases hvalue
  | case4 c tail _ _ first behindValue hv ih =>
      obtain ⟨others, hothers, rfl⟩ := closed_of_withValue h
      obtain ⟨quote, hfirst⟩ := exists_of_attributeValue? hv
      have hname : tail.dropWhile isAttributeChar <:+ c :: tail :=
        (List.dropWhile_suffix _).trans (List.suffix_cons c tail)
      have hread := hfirst.trans hname
      -- it is the first value, or one of those in what follows the first
      rcases List.mem_cons.mp hvalue with rfl | hlater
      · have hfront : value <:+: value ++ quote ++ behindValue := by
          rw [List.append_assoc]
          exact (List.prefix_append value _).isInfix
        exact hfront.trans hread.isInfix
      · have hbehind : skipFiller behindValue <:+ first ++ quote ++ behindValue :=
          (skipFiller_suffix behindValue).trans (List.suffix_append (first ++ quote) behindValue)
        exact (ih hothers hlater).trans (hbehind.trans hread).isInfix
  | case5 c tail _ _ hv ih =>
      have hname : tail.dropWhile isAttributeChar <:+ c :: tail :=
        (List.dropWhile_suffix _).trans (List.suffix_cons c tail)
      exact (ih h hvalue).trans ((skipFiller_suffix _).trans hname).isInfix
  | case6 | case7 => cases h

theorem infix_of_startTagEnd {selfClosing : Bool} {t rest value : Text} {values : List Text}
    (h : startTagEnd t = .closed values selfClosing rest) (hvalue : value ∈ values) :
    value <:+: t :=
  (infix_of_readTagEnd h hvalue).trans
    ((skipFiller_suffix _).trans (List.dropWhile_suffix _)).isInfix

theorem HoldsOversized.exists_infix {value digits : Text} (h : HoldsOversized value digits) :
    Oversized digits ∧ '&' :: '#' :: digits <:+: value := by
  induction h with
  | @here digits rest h _ => exact ⟨h, (List.prefix_append ('&' :: '#' :: digits) rest).isInfix⟩
  | @later c rest _ _ _ ih => exact ⟨ih.1, ih.2.trans (List.suffix_cons c rest).isInfix⟩

/-- **A text in which nothing is refused**: no marked section opens in it, and no decimal
reference has too many digits. -/
structure Plain (t : Text) : Prop where
  unmarked : ¬ "<![".toList <:+: t
  unnumbered : ∀ digits, Oversized digits → ¬ '&' :: '#' :: digits <:+: t

theorem Plain.infix {u : Text} (h : Plain t) (hu : u <:+: t) : Plain u where
  unmarked hmark := h.unmarked (hmark.trans hu)
  unnumbered digits hdigits hnumber := h.unnumbered digits hdigits (hnumber.trans hu)

theorem Plain.not_offends (h : Plain t) : ¬ Offends t e := by
  intro hoffends
  cases hoffends with
  | @marked rest _ _ => exact h.unmarked ⟨[], rest, rfl⟩
  | @reference digits rest next hdigits _ =>
      exact h.unnumbered digits hdigits (List.prefix_append ('&' :: '#' :: digits) _).isInfix
  | @tag c inside rest value digits before after selfClosing _ hend _ hvalue =>
      obtain ⟨hdigits, hnumber⟩ := hvalue.exists_infix
      have htag := infix_of_startTagEnd hend (List.mem_append_right before List.mem_cons_self)
      exact h.unnumbered digits hdigits
        (hnumber.trans (htag.trans (List.suffix_cons '<' _).isInfix))

/-- **A plain text is always read**, however badly formed it is. -/
theorem exists_tokens_of_plain (h : Plain t) : ∃ read, tokens t = .ok read := by
  cases hread : tokens t with
  | ok read => exact ⟨read, rfl⟩
  | error e =>
      obtain ⟨p, harrives, -, hoffends⟩ := tokens_eq_error_iff.mp hread
      have hplain : Plain p.left := h.infix (Arrives.suffix harrives).isInfix
      exact absurd hoffends hplain.not_offends

end LeadScreen.Markup
