import LeadScreen.Proofs.Rule.Other
import Mathlib.Data.List.Count

set_option autoImplicit false

/-! # The form of an email address

An address is a mailbox and a domain around the only at sign of a text without blanks, and the
domain has a point that is neither its first nor its last character (`IsAddress`). One line feed
may follow it (`IsEmail`).

The form can be read in three ways: as it stands, as the search for a pattern of runs
(`Matches`), whose runs can be cut at any point of the domain, and as the program decides it, by
one cut behind the first run. All three come down to the same pieces (`HasPieces`).

The rule for other leads asks for the form, but it reads the requisition first. On comments that
are refused it fails, whatever the address looks like (`malformed_address_unreported`).
-/

namespace LeadScreen.Rule

variable {t rest mailbox domain front back : Text} {c : Char}

/-! ## The form -/

/-- There is a point in the domain that is neither its first nor its last character. -/
def PointWithin (domain : Text) : Prop :=
  ∃ front back, domain = front ++ '.' :: back ∧ front ≠ [] ∧ back ≠ []

/-- **The form of an address.** -/
structure IsAddress (t : Text) : Prop where
  unblank : ∀ c ∈ t, isBlank c = false
  once : t.count '@' = 1
  parts : ∃ mailbox domain, t = mailbox ++ '@' :: domain ∧ mailbox ≠ [] ∧ PointWithin domain

/-- **The form of an email field**: an address, with or without a line feed behind it. -/
def IsEmail (t : Text) : Prop :=
  ∃ address, IsAddress address ∧ (t = address ∨ t = address ++ ['\n'])

/-! ## Its pieces -/

/-- At least one character, and each can stand on either side of the at sign. -/
def IsRun (t : Text) : Prop :=
  t ≠ [] ∧ ∀ c ∈ t, isAddressChar c = true

/-- The text is a mailbox, an at sign, and a domain cut at a point, all three of them runs. -/
def HasPieces (t : Text) : Prop :=
  ∃ mailbox front back, t = mailbox ++ '@' :: (front ++ '.' :: back)
    ∧ IsRun mailbox ∧ IsRun front ∧ IsRun back

theorem isAddressChar_iff : isAddressChar c = true ↔ isBlank c = false ∧ c ≠ '@' := by
  simp [isAddressChar]

theorem isRun_iff : IsRun t ↔ t ≠ [] ∧ (∀ c ∈ t, isBlank c = false) ∧ t.count '@' = 0 := by
  rw [IsRun, List.count_eq_zero]
  refine and_congr_right fun _ => ⟨fun h => ⟨fun c hc => ?_, fun hat => ?_⟩, fun h c hc => ?_⟩
  · exact (isAddressChar_iff.mp (h c hc)).1
  · exact (isAddressChar_iff.mp (h '@' hat)).2 rfl
  · refine isAddressChar_iff.mpr ⟨h.1 c hc, ?_⟩
    rintro rfl
    exact h.2 hc

/-- An address is its pieces: the at sign that is counted is the one at the cut. -/
theorem isAddress_iff_hasPieces : IsAddress t ↔ HasPieces t := by
  constructor
  · rintro ⟨hunblank, honce, mailbox, domain, rfl, hmailbox, front, back, rfl, hfront, hback⟩
    have hcount : mailbox.count '@' + (front.count '@' + back.count '@' + 1) = 1 := by
      simpa [List.count_append] using honce
    refine ⟨mailbox, front, back, rfl, isRun_iff.mpr ⟨hmailbox, ?_, by omega⟩,
      isRun_iff.mpr ⟨hfront, ?_, by omega⟩, isRun_iff.mpr ⟨hback, ?_, by omega⟩⟩
    all_goals exact fun c hc => hunblank c (by simp [hc])
  · rintro ⟨mailbox, front, back, rfl, hmailbox, hfront, hback⟩
    obtain ⟨hmailbox, hunblank, hcount⟩ := isRun_iff.mp hmailbox
    obtain ⟨hfront, hunblank', hcount'⟩ := isRun_iff.mp hfront
    obtain ⟨hback, hunblank'', hcount''⟩ := isRun_iff.mp hback
    refine ⟨fun c hc => ?_, ?_, mailbox, _, rfl, hmailbox, front, back, rfl, hfront, hback⟩
    · simp only [List.mem_append, List.mem_cons] at hc
      rcases hc with hc | rfl | hc | rfl | hc
      · exact hunblank c hc
      · rfl
      · exact hunblank' c hc
      · rfl
      · exact hunblank'' c hc
    · simp [List.count_append, hcount, hcount', hcount'']

/-! ## The pattern -/

/-- What a pattern consists of: a run, or a character. -/
inductive PatternPiece where
  | run
  | char (c : Char)

/-- **What a pattern matches at the start of a text**, and what it leaves of the text. How far a
run goes is left open: a search may try every way to cut the text. -/
inductive Matches : List PatternPiece → Text → Text → Prop where
  | nil {rest : Text} : Matches [] rest rest
  | run {run t rest : Text} {pieces : List PatternPiece} (hrun : IsRun run)
      (h : Matches pieces t rest) : Matches (.run :: pieces) (run ++ t) rest
  | char {c : Char} {t rest : Text} {pieces : List PatternPiece} (h : Matches pieces t rest) :
      Matches (.char c :: pieces) (c :: t) rest

def addressPattern : List PatternPiece := [.run, .char '@', .run, .char '.', .run]

/-- The pattern is found in the text, and reaches to its end or to a line feed there. -/
def Found (pattern : List PatternPiece) (t : Text) : Prop :=
  Matches pattern t [] ∨ Matches pattern t ['\n']

section Matches

variable {pieces : List PatternPiece}

theorem matches_nil_iff : Matches [] t rest ↔ t = rest := by
  constructor
  · rintro ⟨⟩
    rfl
  · rintro rfl
    exact .nil

theorem matches_run_iff : Matches (.run :: pieces) t rest
    ↔ ∃ run behind, t = run ++ behind ∧ IsRun run ∧ Matches pieces behind rest := by
  constructor
  · rintro (_ | ⟨hrun, h⟩)
    exact ⟨_, _, rfl, hrun, h⟩
  · rintro ⟨run, behind, rfl, hrun, h⟩
    exact .run hrun h

theorem matches_char_iff : Matches (.char c :: pieces) t rest
    ↔ ∃ behind, t = c :: behind ∧ Matches pieces behind rest := by
  constructor
  · rintro (_ | _ | h)
    exact ⟨_, rfl, h⟩
  · rintro ⟨behind, rfl, h⟩
    exact .char h

end Matches

theorem matches_addressPattern_iff :
    Matches addressPattern t rest ↔ ∃ address, HasPieces address ∧ t = address ++ rest := by
  constructor
  · intro h
    obtain ⟨mailbox, _, rfl, hmailbox, hat⟩ := matches_run_iff.mp h
    obtain ⟨_, rfl, hdomain⟩ := matches_char_iff.mp hat
    obtain ⟨front, _, rfl, hfront, hpoint⟩ := matches_run_iff.mp hdomain
    obtain ⟨_, rfl, hbehind⟩ := matches_char_iff.mp hpoint
    obtain ⟨back, _, rfl, hback, hend⟩ := matches_run_iff.mp hbehind
    obtain rfl := matches_nil_iff.mp hend
    exact ⟨_, ⟨mailbox, front, back, rfl, hmailbox, hfront, hback⟩, by simp⟩
  · rintro ⟨-, ⟨mailbox, front, back, rfl, hmailbox, hfront, hback⟩, rfl⟩
    have hmatches : Matches addressPattern
        (mailbox ++ '@' :: (front ++ '.' :: (back ++ rest))) rest :=
      .run hmailbox (.char (.run hfront (.char (.run hback .nil))))
    simpa using hmatches

/-- **The form of an email field is what the pattern finds.** -/
theorem isEmail_iff_found : IsEmail t ↔ Found addressPattern t := by
  simp only [IsEmail, Found, matches_addressPattern_iff, isAddress_iff_hasPieces,
    List.append_nil, ← exists_or, ← and_or_left]

/-! ## The decision -/

theorem hasInnerPoint_iff : hasInnerPoint domain = true ↔ PointWithin domain := by
  rw [hasInnerPoint, List.elem_eq_mem, decide_eq_true_eq, Text.mem_dropLast_iff]
  cases domain with
  | nil => simp [PointWithin]
  | cons first domain =>
      constructor
      · rintro ⟨front, back, hcut, hback⟩
        exact ⟨first :: front, back, congrArg (first :: ·) hcut, List.cons_ne_nil _ _, hback⟩
      · rintro ⟨front, back, hcut, hfront, hback⟩
        obtain ⟨d, front, rfl⟩ := List.exists_cons_of_ne_nil hfront
        exact ⟨front, back, (List.cons.inj hcut).2, hback⟩

/-- The program cuts behind the first run, and no other cut could do: the at sign stands in no
run. -/
theorem isAddress_eq_true_iff : isAddress t = true ↔ HasPieces t := by
  constructor
  · intro h
    unfold isAddress at h
    split at h
    · rename_i domain hdomain
      simp only [Bool.and_eq_true, Bool.not_eq_true', List.isEmpty_eq_false_iff,
        List.all_eq_true] at h
      obtain ⟨⟨hne, hall⟩, hpoint⟩ := h
      obtain ⟨hcut, hrun, -⟩ := Text.run_iff.mp ⟨rfl, hdomain⟩
      obtain ⟨front, back, rfl, hfront, hback⟩ := hasInnerPoint_iff.mp hpoint
      refine ⟨_, front, back, hcut, ⟨hne, hrun⟩, ⟨hfront, fun c hc => ?_⟩, hback, fun c hc => ?_⟩
      · exact hall c (List.mem_append_left _ hc)
      · exact hall c (List.mem_append_right _ (List.mem_cons_of_mem _ hc))
    · cases h
  · rintro ⟨mailbox, front, back, rfl, ⟨hne, hmailbox⟩, ⟨hfront, hall⟩, ⟨hback, hall'⟩⟩
    obtain ⟨hrun, hbehind⟩ := Text.run_iff.mpr
      (⟨rfl, hmailbox, fun c hc => by obtain rfl := Option.some.inj hc; rfl⟩ :
        mailbox ++ '@' :: (front ++ '.' :: back) = mailbox ++ '@' :: (front ++ '.' :: back) ∧ _)
    have hpoint : hasInnerPoint (front ++ '.' :: back) = true :=
      hasInnerPoint_iff.mpr ⟨front, back, rfl, hfront, hback⟩
    have hdomain : (front ++ '.' :: back).all isAddressChar = true := by
      rw [List.all_eq_true]
      intro c hc
      rcases List.mem_append.mp hc with hc | hc
      · exact hall c hc
      · rcases List.mem_cons.mp hc with rfl | hc
        · rfl
        · exact hall' c hc
    rw [isAddress, hbehind, hrun]
    simp [hne, hpoint, hdomain]

/-- **The program decides the form.** -/
theorem isEmail_eq_true_iff : isEmail t = true ↔ IsEmail t := by
  simp only [isEmail, IsEmail, isAddress_eq_true_iff, isAddress_iff_hasPieces]
  split
  · rename_i hlast
    have hcut := List.dropLast_append_getLast? '\n' hlast
    constructor
    · intro h
      exact ⟨t.dropLast, h, Or.inr hcut.symm⟩
    · rintro ⟨address, haddress, rfl | rfl⟩
      · -- an address holds no blank, so it does not end with a line feed
        have hblank := (isAddress_iff_hasPieces.mpr haddress).unblank '\n'
          (List.mem_of_getLast? hlast)
        cases hblank
      · rwa [List.dropLast_concat]
  · rename_i hlast
    constructor
    · intro h
      exact ⟨t, h, Or.inl rfl⟩
    · rintro ⟨address, haddress, rfl | rfl⟩
      · exact haddress
      · exact absurd List.getLast?_concat hlast

/-! ## The verdict -/

section Verdict

variable {terms : Assoc Text Text} {lead : Lead}

/-- What is found behind the address is told in other words. -/
theorem sizedVerdict_ne_invalid_address (terms : Assoc Text Text) (lead : Lead) (short : Bool) :
    sizedVerdict terms lead short ≠ .invalid "Invalid email format" := by
  unfold sizedVerdict
  split
  · intro h
    have htext := congrArg Verdict.comment h
    cases congrArg List.head? (Option.some.inj htext)
  · split
    · decide
    · split <;> decide

theorem otherVerdict_eq_invalid_address_iff (hcompany : lead.company.trim ≠ [])
    (hemail : lead.email.trim ≠ []) :
    otherVerdict terms lead = .ok (.invalid "Invalid email format")
      ↔ ¬ IsEmail lead.email.trim := by
  rw [← isEmail_eq_true_iff]
  constructor
  · intro h haddress
    rw [otherVerdict_of_contact ⟨hcompany, haddress⟩] at h
    cases hshort : fallsShort (term terms "company_size") lead.employees with
    | error e =>
        rw [hshort] at h
        cases h
    | ok short =>
        rw [hshort] at h
        exact sizedVerdict_ne_invalid_address terms lead short (Except.ok.inj h)
  · intro haddress
    rw [otherVerdict, if_neg (mt Text.trim_eq_nil_iff.mpr hcompany),
      if_neg (mt Text.trim_eq_nil_iff.mpr hemail), if_pos (by simpa using haddress)]

/-- **Which addresses are turned down.** The program decides the form of an address. Where a
company and an address are given, the lead is turned down for its address exactly if that is not
of the form and the comments of the requisition are not refused. -/
theorem invalid_address_iff (t : Text) (lead : Lead) :
    (isEmail t = true ↔ IsEmail t)
      ∧ (lead.company.trim ≠ [] → lead.email.trim ≠ [] →
        (other lead = .ok (.invalid "Invalid email format")
          ↔ ¬ IsEmail lead.email.trim ∧ ¬ Requisition.Refused lead.req)) := by
  refine ⟨isEmail_eq_true_iff, fun hcompany hemail => ?_⟩
  rw [Requisition.not_refused_iff]
  constructor
  · intro h
    cases hread : Requisition.read lead.req with
    | error e =>
        rw [other, hread] at h
        cases h
    | ok r =>
        rw [other_eq_ok_iff hread, otherVerdict_eq_invalid_address_iff hcompany hemail] at h
        exact ⟨h, r, rfl⟩
  · rintro ⟨hform, r, hread⟩
    rwa [other_eq_ok_iff hread, otherVerdict_eq_invalid_address_iff hcompany hemail]

/-- Points at the ends of the domain do not do, and points within it may be several. -/
theorem invalid_address_iff_of_points :
    other { company := "Acme", email := " jane@.acme. " } = .ok (.invalid "Invalid email format")
      ∧ other { company := "Acme", email := " jane@acme.co.uk " }
        ≠ .ok (.invalid "Invalid email format") := by
  have hread : ¬ Requisition.Refused [] :=
    Requisition.not_refused_iff.mpr (Requisition.exists_read_of_plain Requisition.plain_nil)
  constructor
  · obtain ⟨hgrammar, hverdict⟩ := invalid_address_iff (Text.trim " jane@.acme. ")
      { company := "Acme", email := " jane@.acme. " }
    have hform : ¬ IsEmail (Text.trim " jane@.acme. ") := mt hgrammar.mpr (by decide +kernel)
    exact (hverdict (by decide +kernel) (by decide +kernel)).mpr ⟨hform, hread⟩
  · obtain ⟨hgrammar, hverdict⟩ := invalid_address_iff (Text.trim " jane@acme.co.uk ")
      { company := "Acme", email := " jane@acme.co.uk " }
    intro h
    have hform := ((hverdict (by decide +kernel) (by decide +kernel)).mp h).1
    exact hform (hgrammar.mp (by decide +kernel))

/-- **A malformed address goes unreported** when the comments of the requisition are refused: the
rule fails before it comes to the address. -/
theorem malformed_address_unreported :
    let lead : Lead := { company := "Acme", email := "jane", req := "| comments: <![1]>" }
    lead.company.trim ≠ [] ∧ lead.email.trim ≠ [] ∧ ¬ IsEmail lead.email.trim
      ∧ other lead ≠ .ok (.invalid "Invalid email format") := by
  have hform : ¬ IsEmail (Text.trim "jane") := by
    rw [← isEmail_eq_true_iff]
    decide +kernel
  refine ⟨by decide +kernel, by decide +kernel, hform, fun h => ?_⟩
  have hnarrative : Requisition.narrative "| comments: <![1]>" = "<![1]>".toList := by
    decide +kernel
  have hsection : Markup.OffendsSection ('1' :: [']', '>']) _ := .nameless (by decide)
  have hoffends : Markup.Offends "<![1]>".toList _ := .marked hsection
  obtain ⟨e, herror⟩ := Requisition.exists_read_eq_error_iff.mpr
    ⟨.start (Requisition.narrative "| comments: <![1]>"), _, .refl, rfl, hnarrative ▸ hoffends⟩
  rw [other, herror] at h
  cases h

end Verdict

end LeadScreen.Rule
