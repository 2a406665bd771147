import LeadScreen.Markup.Scan
import LeadScreen.Proofs.Text.Strip

set_option autoImplicit false

/-! # What markup is refused for

Three things at the start of a text make reading fail: a marked section without a known keyword, a
decimal reference of too many digits, and a start tag with such a reference in the value of an
attribute. `Offends` describes them by their characters; `readStep_eq_error_iff` says that reading
a construct fails for them and for nothing else, and with which error.
-/

namespace LeadScreen.Markup

variable {t : Text} {e : Error} {final : Bool}

/-! ## Constructs that are refused -/

/-- Digits of a decimal reference that are too many. -/
def Oversized (digits : Text) : Prop :=
  (∀ c ∈ digits, isAsciiDigit c = true) ∧ digitLimit < digits.length

/-- The first decimal reference in a value that has too many digits. -/
inductive HoldsOversized : Text → Text → Prop where
  | here {digits rest : Text} (h : Oversized digits)
      (hrest : ∀ c ∈ rest.head?, isAsciiDigit c = false) :
      HoldsOversized ('&' :: '#' :: (digits ++ rest)) digits
  | later {c : Char} {rest digits : Text} (h : HoldsOversized rest digits)
      (hfirst : ∀ more behind, Oversized more → c :: rest ≠ '&' :: '#' :: (more ++ behind)) :
      HoldsOversized (c :: rest) digits

/-- The name that a keyword is taken for: a letter and all that can follow it there. -/
def IsName (name behind : Text) : Prop :=
  (∃ first letters, name = first :: letters ∧ first.isAlpha = true
      ∧ ∀ c ∈ letters, isKeywordChar c = true)
    ∧ ∀ c ∈ behind.head?, isKeywordChar c = false

/-- **Marked sections that are refused**, by what follows `<![`. -/
inductive OffendsSection : Text → Error → Prop where
  /-- There is no name. -/
  | nameless {c : Char} {rest : Text} (hc : c.isAlpha = false) :
      OffendsSection (c :: rest) (.nameExpected (("<![".toList ++ c :: rest).take 20))
  /-- The name is no keyword, and more than blanks follow it. -/
  | unknown {name blanks rest : Text} {next : Char} (hname : IsName name (blanks ++ next :: rest))
      (hblanks : ∀ c ∈ blanks, isBlank c = true) (hnext : isBlank next = false)
      (hkeyword : Text.lower name ∉ standardKeywords ++ conditionKeywords) :
      OffendsSection (name ++ blanks ++ next :: rest) (.unknownSection (name ++ blanks))

/-- **Constructs that are refused**, at the start of a text. -/
inductive Offends : Text → Error → Prop where
  | marked {rest : Text} {e : Error} (h : OffendsSection rest e) :
      Offends ('<' :: '!' :: '[' :: rest) e
  /-- A reference is read only if what follows its digits is no digit of either kind. -/
  | reference {digits rest : Text} {next : Char} (h : Oversized digits)
      (hnext : isHexDigit next = false) :
      Offends ('&' :: '#' :: (digits ++ next :: rest)) (.oversizedReference ⟨digits.length⟩)
  /-- The values of a tag are looked through in order, once the tag has ended. -/
  | tag {c : Char} {inside rest value digits : Text} {before after : List Text}
      {selfClosing : Bool} (hc : c.isAlpha = true)
      (hend : startTagEnd (c :: inside) = .closed (before ++ value :: after) selfClosing rest)
      (hbefore : ∀ v ∈ before, ∀ more, ¬ HoldsOversized v more)
      (hvalue : HoldsOversized value digits) :
      Offends ('<' :: c :: inside) (.oversizedReference ⟨digits.length⟩)

/-! ## Marked sections -/

/-- A text that begins with a letter is a name, blanks and what follows them. -/
theorem exists_name {first : Char} (tail : Text) (hfirst : first.isAlpha = true) :
    ∃ name blanks rest, first :: tail = name ++ blanks ++ rest ∧ IsName name (blanks ++ rest)
      ∧ (∀ c ∈ blanks, isBlank c = true) ∧ ∀ c ∈ rest.head?, isBlank c = false := by
  obtain ⟨htail, hletters, hend⟩ :=
    (Text.run_iff (p := isKeywordChar) (t := tail)).mp ⟨rfl, rfl⟩
  obtain ⟨hbehind, hblanks, hrest⟩ :=
    (Text.run_iff (p := isBlank) (t := tail.dropWhile isKeywordChar)).mp ⟨rfl, rfl⟩
  refine ⟨first :: tail.takeWhile isKeywordChar, _, _, ?_, ⟨⟨first, _, rfl, hfirst, hletters⟩, ?_⟩,
    hblanks, hrest⟩
  · rw [List.append_assoc, ← hbehind, List.cons_append, ← htail]
  · rw [← hbehind]
    exact hend

/-- What a marked section comes to, by its name and what follows the blanks behind it. -/
theorem readSection_of_name {name blanks rest : Text} (hname : IsName name (blanks ++ rest))
    (hblanks : ∀ c ∈ blanks, isBlank c = true) (hrest : ∀ c ∈ rest.head?, isBlank c = false) :
    (∃ found, readSection (name ++ blanks ++ rest) = .ok found)
        ∧ (rest = [] ∨ Text.lower name ∈ standardKeywords ++ conditionKeywords)
      ∨ readSection (name ++ blanks ++ rest) = .error (.unknownSection (name ++ blanks))
        ∧ rest ≠ [] ∧ Text.lower name ∉ standardKeywords ++ conditionKeywords := by
  obtain ⟨⟨first, letters, rfl, hfirst, hletters⟩, hend⟩ := hname
  have ht : first :: letters ++ blanks ++ rest = first :: (letters ++ (blanks ++ rest)) := by
    simp
  obtain ⟨hrun, hbehind⟩ := Text.run_iff.mpr ⟨rfl, hletters, hend⟩
  obtain ⟨hspace, hleft⟩ := Text.run_iff.mpr ⟨rfl, hblanks, hrest⟩
  have hstart : Text.trimStart (blanks ++ rest) = rest := hleft
  rw [ht, readSection, if_pos hfirst, hrun, hbehind, hspace, hstart]
  dsimp only
  -- in the order of the reader: the end of the text, then the two kinds of keywords
  rw [List.mem_append]
  by_cases hempty : rest = []
  · rw [if_pos (by rw [hempty]; rfl)]
    exact Or.inl ⟨⟨_, rfl⟩, Or.inl hempty⟩
  · rw [if_neg (by simpa using hempty)]
    by_cases hstandard : Text.lower (first :: letters) ∈ standardKeywords
    · rw [if_pos (List.elem_eq_true_of_mem hstandard)]
      exact Or.inl ⟨⟨_, rfl⟩, Or.inr (Or.inl hstandard)⟩
    · rw [if_neg (by simpa using hstandard)]
      by_cases hcondition : Text.lower (first :: letters) ∈ conditionKeywords
      · rw [if_pos (List.elem_eq_true_of_mem hcondition)]
        exact Or.inl ⟨⟨_, rfl⟩, Or.inr (Or.inr hcondition)⟩
      · rw [if_neg (by simpa using hcondition)]
        exact Or.inr ⟨rfl, hempty, fun h => h.elim hstandard hcondition⟩

theorem readSection_eq_error_iff : readSection t = .error e ↔ OffendsSection t e := by
  constructor
  · intro h
    cases t with
    | nil => simp [readSection] at h
    | cons first tail =>
        by_cases hfirst : first.isAlpha = true
        · obtain ⟨name, blanks, rest, ht, hname, hblanks, hrest⟩ := exists_name tail hfirst
          rw [ht] at h ⊢
          rcases readSection_of_name hname hblanks hrest with ⟨⟨found, hok⟩, -⟩ | ⟨herr, hne, hkey⟩
          · rw [hok] at h
            cases h
          · rw [herr] at h
            cases h
            cases rest with
            | nil => exact absurd rfl hne
            | cons next rest => exact .unknown hname hblanks (hrest next rfl) hkey
        · rw [readSection, if_neg hfirst] at h
          cases h
          exact .nameless (Bool.not_eq_true _ ▸ hfirst)
  · intro h
    cases h with
    | @nameless c rest hc => rw [readSection, if_neg (by rw [hc]; exact Bool.false_ne_true)]
    | @unknown name blanks rest next hname hblanks hnext hkey =>
        have hrest : ∀ c ∈ (next :: rest).head?, isBlank c = false := by simpa using hnext
        rcases readSection_of_name hname hblanks hrest with ⟨-, hnil | hmem⟩ | ⟨herr, -⟩
        · cases hnil
        · exact absurd hmem hkey
        · exact herr

/-! ## References -/

theorem isAsciiDigit_eq_false {c : Char} (h : isHexDigit c = false) : isAsciiDigit c = false := by
  rw [isHexDigit, Bool.or_eq_false_iff, Bool.or_eq_false_iff] at h
  exact h.1.1

theorem Oversized.ne_nil {digits : Text} (h : Oversized digits) : digits ≠ [] := by
  rintro rfl
  exact absurd h.2 (Nat.not_lt_zero _)

/-- A number at the end of the text is none. -/
theorem readNumber_of_digits (hdigits : ∀ c ∈ t, isAsciiDigit c = true) :
    readNumber t = .absent := by
  obtain ⟨hrun, hleft⟩ := Text.run_iff.mpr ⟨(List.append_nil t).symm, hdigits, nofun⟩
  cases t with
  | nil => rfl
  | cons first digits =>
      rw [readNumber]
      simp only [hrun, hleft, List.isEmpty_cons, Bool.false_eq_true, if_false]

/-- Elsewhere a number is one if no digit of either kind follows. -/
theorem readNumber_of_digits_append {digits rest : Text} {next : Char} (hne : digits ≠ [])
    (hdigits : ∀ c ∈ digits, isAsciiDigit c = true) (hnext : isAsciiDigit next = false) :
    readNumber (digits ++ next :: rest) =
      if isHexDigit next then .absent else .decimal digits (dropSemicolon (next :: rest)) := by
  have hbehind : ∀ c ∈ (next :: rest).head?, isAsciiDigit c = false := by simpa using hnext
  obtain ⟨hrun, hleft⟩ := Text.run_iff.mpr ⟨rfl, hdigits, hbehind⟩
  cases digits with
  | nil => exact absurd rfl hne
  | cons first digits =>
      rw [List.cons_append] at hrun hleft ⊢
      rw [readNumber]
      simp only [hrun, hleft, List.isEmpty_cons, Bool.false_eq_true, if_false]

/-- Without a digit there is no decimal number, so nothing is refused. -/
theorem text_readNumber_of_no_digit (h : t.takeWhile isAsciiDigit = []) :
    (readNumber t).text ≠ .error e := by
  have hempty : (t.takeWhile isAsciiDigit).isEmpty = true := by rw [h]; rfl
  unfold readNumber
  split
  · simp [Reference.text]
  · rw [if_pos hempty]
    split
    · split
      · simp [Reference.text]
      · split <;> simp [Reference.text]
    · simp [Reference.text]

theorem text_decimal_eq_error_iff {digits rest : Text} :
    (Reference.decimal digits rest).text = .error e
      ↔ digitLimit < digits.length ∧ e = .oversizedReference ⟨digits.length⟩ := by
  cases hread : readDigits digits with
  | ok n =>
      have hfew : ¬ digitLimit < digits.length := fun hmany => by
        rw [readDigits_eq_error_iff.mpr ⟨hmany, rfl⟩] at hread
        cases hread
      simp [Reference.text, hread, hfew]
  | error number =>
      obtain ⟨hmany, rfl⟩ := readDigits_eq_error_iff.mp hread
      simp only [Reference.text, hread, hmany, true_and, Except.error.injEq]
      exact eq_comm

theorem text_readNumber_eq_error_iff : (readNumber t).text = .error e ↔
    ∃ digits next rest, t = digits ++ next :: rest ∧ Oversized digits
      ∧ isHexDigit next = false ∧ e = .oversizedReference ⟨digits.length⟩ := by
  constructor
  · intro h
    obtain ⟨ht, hdigits, hbehind⟩ :=
      (Text.run_iff (p := isAsciiDigit) (t := t)).mp ⟨rfl, rfl⟩
    cases hleft : t.dropWhile isAsciiDigit with
    | nil =>
        rw [hleft, List.append_nil] at ht
        rw [readNumber_of_digits (ht ▸ hdigits)] at h
        cases h
    | cons next rest =>
        rw [hleft] at ht hbehind
        have hne : t.takeWhile isAsciiDigit ≠ [] := fun hnil => text_readNumber_of_no_digit hnil h
        rw [ht, readNumber_of_digits_append hne hdigits (hbehind next rfl)] at h
        by_cases hnext : isHexDigit next = true
        · rw [if_pos hnext] at h
          cases h
        · rw [if_neg hnext, text_decimal_eq_error_iff] at h
          exact ⟨_, next, rest, ht, ⟨hdigits, h.1⟩, Bool.not_eq_true _ ▸ hnext, h.2⟩
  · rintro ⟨digits, next, rest, rfl, h, hnext, rfl⟩
    rw [readNumber_of_digits_append h.ne_nil h.1 (isAsciiDigit_eq_false hnext),
      if_neg (by rw [hnext]; exact Bool.false_ne_true)]
    exact text_decimal_eq_error_iff.mpr ⟨h.2, rfl⟩

theorem text_readName_ne_error : (readName t).text ≠ .error e := by
  unfold readName
  split
  · simp [Reference.text]
  · split
    · split
      · simp [Reference.text]
      · split <;> simp [Reference.text]
    · simp [Reference.text]

theorem text_ne_error_of_rest?_eq_none {r : Reference} (h : r.rest? = none) :
    r.text ≠ .error e := by
  cases r with
  | absent => simp [Reference.text]
  | decimal | hexadecimal | named => cases h

/-- What follows an ampersand makes reading fail only if it is a number. -/
theorem readAmpersand_eq_error_iff : readAmpersand final t = .error e ↔
    ∃ number, t = '#' :: number ∧ (readNumber number).text = .error e := by
  unfold readAmpersand
  split
  · simp
  · rename_i number
    split
    · cases htext : (readNumber number).text <;>
        simp [htext, bind, Except.bind, pure, Except.pure]
    · rename_i hrest
      have hok := text_ne_error_of_rest?_eq_none (e := e) hrest
      split <;> simp [hok]
  · rename_i c tail hnumber
    have hname : ¬ ∃ number, c :: tail = '#' :: number ∧ (readNumber number).text = .error e := by
      rintro ⟨number, heq, -⟩
      obtain ⟨rfl, rfl⟩ := List.cons.inj heq
      exact hnumber rfl
    refine iff_of_false ?_ hname
    split
    · cases htext : (readName (c :: tail)).text with
      | ok text => simp [bind, Except.bind, pure, Except.pure]
      | error e' => exact absurd htext text_readName_ne_error
    · split
      · split <;> simp
      · simp

/-! ## Start tags -/

/-- A value begins with a reference of too many digits, or the search goes on behind its first
character. -/
theorem oversizedReference?_cons (c : Char) (rest : Text) :
    (∃ digits behind, c :: rest = '&' :: '#' :: (digits ++ behind) ∧ Oversized digits
        ∧ (∀ d ∈ behind.head?, isAsciiDigit d = false)
        ∧ oversizedReference? (c :: rest) = some ⟨digits.length⟩)
      ∨ (∀ digits behind, Oversized digits → c :: rest ≠ '&' :: '#' :: (digits ++ behind))
        ∧ oversizedReference? (c :: rest) = oversizedReference? rest := by
  by_cases hmark : c = '&' ∧ ∃ number, rest = '#' :: number
  · obtain ⟨rfl, number, rfl⟩ := hmark
    obtain ⟨hnumber, hdigits, hbehind⟩ :=
      (Text.run_iff (p := isAsciiDigit) (t := number)).mp ⟨rfl, rfl⟩
    by_cases hmany : digitLimit < (number.takeWhile isAsciiDigit).length
    · refine Or.inl ⟨_, _, by rw [← hnumber], ⟨hdigits, hmany⟩, hbehind, ?_⟩
      rw [oversizedReference?]
      simp [hmany]
    · refine Or.inr ⟨fun digits behind h heq => hmany ?_, ?_⟩
      · -- the digits of any reference here are part of the run
        simp only [List.cons.injEq, true_and] at heq
        rw [heq, List.takeWhile_append_of_pos h.1, List.length_append]
        exact Nat.lt_add_right _ h.2
      · rw [oversizedReference?]
        simp [hmany]
  · refine Or.inr ⟨fun digits behind h heq => hmark ?_, ?_⟩
    · obtain ⟨hc, hrest⟩ := List.cons.inj heq
      exact ⟨hc, _, hrest⟩
    · by_cases hnumber : ∃ number, rest = '#' :: number
      · obtain ⟨number, rfl⟩ := hnumber
        have hc : c ≠ '&' := fun hc => hmark ⟨hc, number, rfl⟩
        rw [oversizedReference?]
        simp [hc]
      · rw [oversizedReference?]
        · simp
        · exact fun number hrest => hnumber ⟨number, hrest⟩

theorem oversizedReference?_eq_some_iff {number : TooManyDigits} :
    oversizedReference? t = some number
      ↔ ∃ digits, HoldsOversized t digits ∧ number = ⟨digits.length⟩ := by
  constructor
  · intro h
    induction t with
    | nil => cases h
    | cons c rest ih =>
        rcases oversizedReference?_cons c rest with ⟨digits, behind, heq, hdigits, hbehind, hsome⟩
          | ⟨hfirst, hlater⟩
        · rw [hsome] at h
          rw [heq]
          exact ⟨digits, .here hdigits hbehind, (Option.some.inj h).symm⟩
        · obtain ⟨digits, hrest, hnumber⟩ := ih (hlater ▸ h)
          exact ⟨digits, .later hrest hfirst, hnumber⟩
  · rintro ⟨digits, h, rfl⟩
    induction h with
    | @here digits rest hdigits hrest =>
        rcases oversizedReference?_cons '&' ('#' :: (digits ++ rest)) with
          ⟨digits', behind, heq, hdigits', hbehind, hsome⟩ | ⟨hfirst, -⟩
        · simp only [List.cons.injEq, true_and] at heq
          -- both are the run that the number begins with
          have hrun := (Text.run_iff.mpr ⟨rfl, hdigits.1, hrest⟩).1
          have hrun' := (Text.run_iff.mpr ⟨heq, hdigits'.1, hbehind⟩).1
          rw [hsome, ← hrun', hrun]
        · exact absurd rfl (hfirst digits rest hdigits)
    | @later c rest digits _ hfirst ih =>
        rcases oversizedReference?_cons c rest with ⟨digits', behind, heq, hdigits', -⟩
          | ⟨-, hlater⟩
        · exact absurd heq (hfirst digits' behind hdigits')
        · rw [hlater, ih]

theorem oversizedReference?_eq_none_iff :
    oversizedReference? t = none ↔ ∀ digits, ¬ HoldsOversized t digits := by
  constructor
  · intro h digits hholds
    rw [oversizedReference?_eq_some_iff.mpr ⟨digits, hholds, rfl⟩] at h
    cases h
  · intro h
    cases hfound : oversizedReference? t with
    | none => rfl
    | some number =>
        obtain ⟨digits, hholds, -⟩ := oversizedReference?_eq_some_iff.mp hfound
        exact absurd hholds (h digits)

/-- The first reference of too many digits in the values of a tag. -/
theorem findSome?_oversizedReference?_eq_some_iff {values : List Text} {number : TooManyDigits} :
    values.findSome? oversizedReference? = some number ↔
      ∃ before value after digits, values = before ++ value :: after
        ∧ (∀ v ∈ before, ∀ more, ¬ HoldsOversized v more)
        ∧ HoldsOversized value digits ∧ number = ⟨digits.length⟩ := by
  rw [List.findSome?_eq_some_iff]
  constructor
  · rintro ⟨before, value, after, hvalues, hvalue, hbefore⟩
    obtain ⟨digits, hholds, hnumber⟩ := oversizedReference?_eq_some_iff.mp hvalue
    exact ⟨before, value, after, digits, hvalues,
      fun v hv => oversizedReference?_eq_none_iff.mp (hbefore v hv), hholds, hnumber⟩
  · rintro ⟨before, value, after, digits, hvalues, hbefore, hholds, hnumber⟩
    exact ⟨before, value, after, hvalues,
      oversizedReference?_eq_some_iff.mpr ⟨digits, hholds, hnumber⟩,
      fun v hv => oversizedReference?_eq_none_iff.mpr (hbefore v hv)⟩

/-- A start tag makes reading fail only once it has ended. -/
theorem readStartTag_eq_error_iff : readStartTag final t = .error e ↔
    ∃ values selfClosing rest number, startTagEnd t = .closed values selfClosing rest
      ∧ values.findSome? oversizedReference? = some number ∧ e = .oversizedReference number := by
  unfold readStartTag
  split
  · rename_i values selfClosing rest htag
    split
    · rename_i number hfound
      simp [htag, hfound, eq_comm]
    · rename_i hfound
      simp [htag, hfound]
  · rename_i htag
    simp [htag]
  · rename_i rest htag
    simp [htag]

/-! ## All constructs -/

theorem readMarked_eq_error_iff : readMarked final t = .error e ↔ OffendsSection t e := by
  rw [← readSection_eq_error_iff]
  unfold readMarked
  split <;> rename_i hs <;> simp [hs]

/-- Of what a bracket begins, marked sections and start tags can make reading fail. -/
theorem readBracket_eq_error_iff : readBracket final t = .error e ↔
    (∃ rest, t = '!' :: '[' :: rest ∧ OffendsSection rest e)
      ∨ ∃ c inside, t = c :: inside ∧ c.isAlpha = true ∧ readStartTag final t = .error e := by
  unfold readBracket
  split
  · simp
  · simp
  · simp
  · simp [readMarked_eq_error_iff]
  · rename_i rest _ hsection
    have hnot : ∀ behind, rest = '[' :: behind → ¬ OffendsSection behind e :=
      fun behind hrest => (hsection behind hrest).elim
    simpa using hnot
  · simp
  · rename_i c rest _ _ _ hmark _
    have hletter : (∃ d inside, c :: rest = d :: inside ∧ d.isAlpha = true
        ∧ readStartTag final (c :: rest) = .error e)
        ↔ c.isAlpha = true ∧ readStartTag final (c :: rest) = .error e := by
      simp
    have hnot : ¬ ∃ behind, c :: rest = '!' :: '[' :: behind ∧ OffendsSection behind e := by
      rintro ⟨behind, heq, -⟩
      exact hmark (List.cons.inj heq).1
    rw [hletter, or_iff_right hnot]
    split <;> rename_i hc <;> simp [hc]

/-- **Reading a construct fails for what offends and for nothing else**, in either pass. -/
theorem readStep_eq_error_iff : readStep final t = .error e ↔ Offends t e := by
  constructor
  · intro h
    unfold readStep at h
    split at h
    · cases h
    · obtain ⟨number, rfl, hnumber⟩ := readAmpersand_eq_error_iff.mp h
      obtain ⟨digits, next, rest, rfl, hdigits, hnext, rfl⟩ :=
        text_readNumber_eq_error_iff.mp hnumber
      exact .reference hdigits hnext
    · rcases readBracket_eq_error_iff.mp h with ⟨rest, rfl, hsection⟩ | ⟨c, inside, rfl, hc, htag⟩
      · exact .marked hsection
      · obtain ⟨values, selfClosing, rest, number, hend, hfound, rfl⟩ :=
          readStartTag_eq_error_iff.mp htag
        obtain ⟨before, value, after, digits, rfl, hbefore, hvalue, rfl⟩ :=
          findSome?_oversizedReference?_eq_some_iff.mp hfound
        exact .tag hc hend hbefore hvalue
    · cases h
  · intro h
    cases h with
    | marked h => exact readMarked_eq_error_iff.mpr h
    | @reference digits rest next h hnext =>
        show readAmpersand final ('#' :: (digits ++ next :: rest)) = _
        exact readAmpersand_eq_error_iff.mpr ⟨_, rfl,
          text_readNumber_eq_error_iff.mpr ⟨digits, next, rest, rfl, h, hnext, rfl⟩⟩
    | @tag c inside rest value digits before after selfClosing hc hend hbefore hvalue =>
        show readBracket final (c :: inside) = _
        have hfound := findSome?_oversizedReference?_eq_some_iff.mpr
          ⟨before, value, after, digits, rfl, hbefore, hvalue, rfl⟩
        have htag : readStartTag final (c :: inside) = .error (.oversizedReference _) :=
          readStartTag_eq_error_iff.mpr ⟨_, selfClosing, rest, _, hend, hfound, rfl⟩
        exact readBracket_eq_error_iff.mpr (Or.inr ⟨c, inside, rfl, hc, htag⟩)

end LeadScreen.Markup
