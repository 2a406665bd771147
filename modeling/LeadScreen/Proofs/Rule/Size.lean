import LeadScreen.Proofs.Text.Case
import LeadScreen.Proofs.Text.Cut
import LeadScreen.Rule.Size
import Mathlib.Data.Nat.Find

set_option autoImplicit false

/-! # The bounds in a size

A size is stated by the first bound in a text. What a bound is (`Begins`) and which one is first
(`FirstBound`) is said of the text as a whole; the search, which looks at one place after the
other, finds it (`findBound?_eq_some_iff`). A written number holds nothing but digits and commas,
so that reading one fails on too many digits (`Oversized`) and on nothing else.
-/

namespace LeadScreen.Rule

variable {mark c : Char} {t rest written : Text}

/-! ## Bounds -/

/-- **A written number**: digits and commas, a digit first. -/
structure IsWritten (t : Text) : Prop where
  starts : ∃ c ∈ t.head?, isDigit c = true
  spelled : ∀ c ∈ t, isNumberChar c = true

/-- The text begins with a bound: a written number and the mark, with blanks between them or not. -/
def Begins (mark : Char) (t written : Text) : Prop :=
  IsWritten written ∧ ∃ blanks after, (∀ c ∈ blanks, isBlank c = true)
    ∧ t = written ++ (blanks ++ mark :: after)

/-- **The first bound of a text**: one begins at a place, and none at any place before. -/
def FirstBound (mark : Char) (t written : Text) : Prop :=
  ∃ n, Begins mark (t.drop n) written ∧ ∀ k < n, ∀ other, ¬ Begins mark (t.drop k) other

theorem FirstBound.isWritten (h : FirstBound mark t written) : IsWritten written := by
  obtain ⟨n, ⟨hwritten, -⟩, -⟩ := h
  exact hwritten

/-- A mark cannot be taken for a part of a number, or for a blank. -/
structure IsMark (mark : Char) : Prop where
  foreign : isNumberChar mark = false
  solid : isBlank mark = false

theorem isMark_plus : IsMark '+' := ⟨by decide, by decide⟩

theorem isMark_minus : IsMark '-' := ⟨by decide, by decide⟩

/-! ## The search -/

theorem isNumberChar_eq_false (h : isBlank c = true) : isNumberChar c = false := by
  rcases toNat_or_mem_of_isBlank h with hlow | hwide
  · have hcomma : c ≠ ',' := by
      rintro rfl
      exact absurd h (by decide)
    have hzero : '0'.toNat = 48 := rfl
    have hdigit : digitValue? c = none := by
      rw [digitValue?, if_pos (by omega), if_neg]
      simp only [Bool.and_eq_true, decide_eq_true_eq]
      omega
    rw [isNumberChar, isDigit, hdigit, Option.isSome_none, Bool.false_or, beq_eq_false_iff_ne]
    exact hcomma
  · have hall : (wideBlanks.all fun d => !isNumberChar d) = true := by decide +kernel
    simpa using List.all_eq_true.mp hall c hwide

theorem not_begins_nil : ¬ Begins mark [] written := by
  rintro ⟨-, blanks, after, -, htext⟩
  have hlength := congrArg List.length htext
  simp at hlength

/-- What stands behind a number that the mark follows, a blank or the mark, is no part of it. -/
theorem IsMark.ends_number (hmark : IsMark mark) {blanks after : Text}
    (hblanks : ∀ c ∈ blanks, isBlank c = true) :
    ∀ c ∈ (blanks ++ mark :: after).head?, isNumberChar c = false := by
  intro c hc
  cases blanks with
  | nil => exact Option.some.inj hc ▸ hmark.foreign
  | cons b blanks =>
      exact isNumberChar_eq_false (hblanks c (Option.some.inj hc ▸ List.mem_cons_self))

/-- At a given place there is one bound at most: the number goes on as far as it can. -/
theorem begins_cons_iff (hmark : IsMark mark) : Begins mark (c :: rest) written
    ↔ isDigit c = true ∧ (Text.trimStart (rest.dropWhile isNumberChar)).head? = some mark
      ∧ written = c :: rest.takeWhile isNumberChar := by
  constructor
  · rintro ⟨⟨⟨d, hd, hdigit⟩, hspelled⟩, blanks, after, hblanks, htext⟩
    obtain ⟨number, rfl⟩ : ∃ number, written = d :: number := by
      cases written with
      | nil => cases hd
      | cons e number => exact ⟨number, by rw [Option.some.inj hd]⟩
    obtain ⟨rfl, hrest⟩ := List.cons.inj htext
    obtain ⟨hrun, hbehind⟩ := Text.run_iff.mpr
      ⟨hrest, fun e he => hspelled e (List.mem_cons_of_mem c he), hmark.ends_number hblanks⟩
    refine ⟨hdigit, ?_, by rw [hrun]⟩
    rw [hbehind, Text.trimStart, List.dropWhile_append_of_pos hblanks, List.dropWhile_cons,
      hmark.solid]
    rfl
  · rintro ⟨hdigit, hhead, rfl⟩
    obtain ⟨after, hafter⟩ : ∃ after, Text.trimStart (rest.dropWhile isNumberChar) = mark :: after := by
      cases hbehind : Text.trimStart (rest.dropWhile isNumberChar) with
      | nil =>
          rw [hbehind] at hhead
          cases hhead
      | cons e after =>
          rw [hbehind] at hhead
          exact ⟨after, by rw [Option.some.inj hhead]⟩
    obtain ⟨hsplit, hspelled, -⟩ := Text.run_iff.mp
      (⟨rfl, rfl⟩ : rest.takeWhile isNumberChar = _ ∧ rest.dropWhile isNumberChar = _)
    obtain ⟨hblanks, hall, -⟩ := Text.run_iff.mp
      (⟨rfl, hafter⟩ : (rest.dropWhile isNumberChar).takeWhile isBlank = _ ∧ _ = mark :: after)
    refine ⟨⟨⟨c, rfl, hdigit⟩, ?_⟩, _, after, hall, ?_⟩
    · intro e he
      rcases List.mem_cons.mp he with rfl | he
      · rw [isNumberChar, hdigit, Bool.true_or]
      · exact hspelled e he
    · rw [← hblanks, List.cons_append, ← hsplit]

/-- A bound at the start is the first one. -/
theorem Begins.firstBound (h : Begins mark t written) : FirstBound mark t written :=
  ⟨0, h, nofun⟩

/-- Where a bound begins somewhere, there is a first place where one begins. -/
theorem Begins.exists_firstBound {n : Nat} (h : Begins mark (t.drop n) written) :
    ∃ first, FirstBound mark t first := by
  classical
  have hsome : ∃ n other, Begins mark (t.drop n) other := ⟨n, written, h⟩
  obtain ⟨first, hfirst⟩ := Nat.find_spec hsome
  exact ⟨first, Nat.find hsome, hfirst, fun k hk other hother =>
    Nat.find_min hsome hk ⟨other, hother⟩⟩

/-- Without a bound at the start, places are counted from the next one. -/
theorem firstBound_cons_iff (hnot : ∀ other, ¬ Begins mark (c :: rest) other) :
    FirstBound mark (c :: rest) written ↔ FirstBound mark rest written := by
  constructor
  · rintro ⟨n, hbegins, hfirst⟩
    cases n with
    | zero => exact absurd hbegins (hnot written)
    | succ n => exact ⟨n, hbegins, fun k hk => hfirst (k + 1) (by omega)⟩
  · rintro ⟨n, hbegins, hfirst⟩
    refine ⟨n + 1, hbegins, fun k hk => ?_⟩
    cases k with
    | zero => exact hnot
    | succ k => exact hfirst k (by omega)

/-- **The search finds the first bound.** -/
theorem findBound?_eq_some_iff (hmark : IsMark mark) :
    findBound? mark t = some written ↔ FirstBound mark t written := by
  induction t with
  | nil =>
      refine iff_of_false nofun ?_
      rintro ⟨n, hbegins, -⟩
      rw [List.drop_nil] at hbegins
      exact not_begins_nil hbegins
  | cons c rest ih =>
      rw [findBound?]
      by_cases hhere : isDigit c = true
          ∧ (Text.trimStart (rest.dropWhile isNumberChar)).head? = some mark
      · have hbegins := (begins_cons_iff hmark).mpr ⟨hhere.1, hhere.2, rfl⟩
        rw [if_pos (by simpa using hhere)]
        constructor
        · intro h
          rw [← Option.some.inj h]
          exact hbegins.firstBound
        · rintro ⟨n, hbegins', hfirst⟩
          cases n with
          | zero => rw [((begins_cons_iff hmark).mp hbegins').2.2]
          | succ n => exact absurd hbegins (hfirst 0 (Nat.succ_pos n) _)
      · have hnot : ∀ other, ¬ Begins mark (c :: rest) other := fun other h =>
          hhere ⟨((begins_cons_iff hmark).mp h).1, ((begins_cons_iff hmark).mp h).2.1⟩
        rw [if_neg (by simpa using hhere), ih, firstBound_cons_iff hnot]

/-- A text without a bound is one in which none is found. -/
theorem findBound?_eq_none_iff (hmark : IsMark mark) :
    findBound? mark t = none ↔ ∀ written, ¬ FirstBound mark t written := by
  rw [Option.eq_none_iff_forall_ne_some]
  exact forall_congr' fun written => not_congr (findBound?_eq_some_iff hmark)

/-- No bound begins in what holds no digit. -/
theorem findBound?_append {before : Text} (h : ∀ c ∈ before, isDigit c = false) (t : Text) :
    findBound? mark (before ++ t) = findBound? mark t := by
  induction before with
  | nil => rfl
  | cons c before ih =>
      rw [List.cons_append, findBound?, h c List.mem_cons_self, Bool.false_and,
        if_neg Bool.false_ne_true]
      exact ih fun d hd => h d (List.mem_cons_of_mem c hd)

/-! ## Too many digits -/

/-- **The first bound has too many digits.** -/
def Oversized (mark : Char) (t : Text) : Prop :=
  ∃ written, FirstBound mark t written ∧ digitLimit < written.countP isDigit

/-- What is read of a written number is its digits. -/
theorem length_filter_ne_comma (h : IsWritten written) :
    (written.filter (· != ',')).length = written.countP isDigit := by
  rw [List.countP_eq_length_filter]
  refine congrArg List.length (List.filter_congr fun c hc => ?_)
  by_cases hcomma : c = ','
  · rw [hcomma]
    decide
  · have hchar := h.spelled c hc
    rw [isNumberChar, beq_eq_false_iff_ne.mpr hcomma, Bool.or_false] at hchar
    rw [hchar]
    simpa using hcomma

theorem writtenNumber_eq_error_iff (h : IsWritten written) :
    (∃ e, writtenNumber written = .error e) ↔ digitLimit < written.countP isDigit := by
  rw [← length_filter_ne_comma h]
  constructor
  · rintro ⟨e, herror⟩
    exact (readDigits_eq_error_iff.mp herror).1
  · intro hlimit
    exact ⟨_, readDigits_eq_error_iff.mpr ⟨hlimit, rfl⟩⟩

/-- **Reading a bound fails on too many digits**, and on nothing else. -/
theorem readBound_eq_error_iff (hmark : IsMark mark) :
    (∃ e, readBound mark t = .error e) ↔ Oversized mark t := by
  unfold readBound
  cases hfound : findBound? mark t with
  | none =>
      refine iff_of_false nofun ?_
      rintro ⟨written, hfirst, -⟩
      exact (findBound?_eq_none_iff hmark).mp hfound written hfirst
  | some written =>
      have hfirst := (findBound?_eq_some_iff hmark).mp hfound
      have hread : (∃ e, (writtenNumber written).map some = .error e)
          ↔ ∃ e, writtenNumber written = .error e := by
        cases writtenNumber written <;> simp [Except.map]
      rw [hread, writtenNumber_eq_error_iff hfirst.isWritten]
      constructor
      · intro hlimit
        exact ⟨written, hfirst, hlimit⟩
      · rintro ⟨other, hother, hlimit⟩
        have hsame := (findBound?_eq_some_iff hmark).mpr hother
        rw [hfound] at hsame
        rwa [Option.some.inj hsame]

/-- **The bound of a bucket has too many digits**: the first one with a plus behind it, or where
there is none, the first one with a minus. -/
def OversizedBucket (t : Text) : Prop :=
  Oversized '+' t ∨ (∀ written, ¬ FirstBound '+' t written) ∧ Oversized '-' t

theorem bucketSize_eq_error_iff : (∃ e, bucketSize t = .error e) ↔ OversizedBucket t := by
  unfold bucketSize
  cases hfound : findBound? '+' t with
  | none =>
      have hnone := (findBound?_eq_none_iff isMark_plus).mp hfound
      rw [Option.isSome_none, if_neg Bool.false_ne_true, readBound_eq_error_iff isMark_minus]
      constructor
      · intro h
        exact Or.inr ⟨hnone, h⟩
      · rintro (⟨written, hfirst, -⟩ | ⟨-, h⟩)
        · exact absurd hfirst (hnone written)
        · exact h
  | some written =>
      have hfirst := (findBound?_eq_some_iff isMark_plus).mp hfound
      rw [Option.isSome_some, if_pos rfl, readBound_eq_error_iff isMark_plus]
      constructor
      · exact Or.inl
      · rintro (h | ⟨hnone, -⟩)
        · exact h
        · exact absurd hfirst (hnone written)

end LeadScreen.Rule
