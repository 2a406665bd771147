import LeadScreen.Proofs.Rule.Email
import LeadScreen.Proofs.Rule.Size
import LeadScreen.Proofs.Text.Spelling

set_option autoImplicit false

/-! # The fields of a lead in other spellings

The checks of a lead look at its fields in different ways. An address has no gaps, and neither at
signs nor points have case (`isEmail_trim_congr`); a size is a number and a mark, with any gap
between them (`bucketSize_congr`); a company is there or is not. So in whatever spelling these
fields are, the checks of them have the same outcome. A demand is looked for in the text as it
stands, gaps included, so that the outcome is the same for demands without gaps (`industryFits_congr`,
`regionFits_congr`).
-/

namespace LeadScreen.Rule

open Text

variable {mark c x : Char} {t a b rest back asked : Text} {afterCased : Bool}
  {p : Char → Bool}

/-! ## Addresses -/

theorem steady_isAddressChar : Steady isAddressChar :=
  (CaselessClass.blanks.or (CaselessClass.of_lt (by decide))).steady.not

/-- A point within a domain is within it in lower case. -/
theorem hasInnerPoint_lowerFrom (afterCased : Bool) (domain : Text) :
    hasInnerPoint (lowerFrom afterCased domain) = hasInnerPoint domain := by
  have hpoint : '.'.toNat < 65 := by decide
  rw [hasInnerPoint, hasInnerPoint, Bool.eq_iff_iff, List.elem_iff, List.elem_iff]
  cases domain with
  | nil => exact Iff.rfl
  | cons c rest =>
      obtain ⟨d, ds, hcons⟩ := List.exists_cons_of_ne_nil (lowerAt_ne_nil afterCased c rest)
      -- what else the first character is lowered to is no point
      have hds : '.' ∉ ds := by
        intro hmem
        have hin : '.' ∈ lowerAt afterCased c rest := hcons ▸ List.mem_cons_of_mem d hmem
        obtain rfl := (mem_lowerAt_iff hpoint).mp hin
        rw [(CaselessClass.of_lt hpoint).lowerAt_eq (beq_self_eq_true '.')] at hcons
        obtain ⟨-, rfl⟩ := List.cons.inj hcons
        cases hmem
      rw [lowerFrom, hcons, List.cons_append, List.drop_one, List.drop_one, List.tail_cons,
        List.tail_cons]
      by_cases hrest : lowerFrom (if isCaseIgnorable c then afterCased else isCased c) rest = []
      · rw [hrest, lowerFrom_eq_nil_iff.mp hrest, List.append_nil]
        exact iff_of_false (fun hmem => hds (List.dropLast_subset _ hmem)) List.not_mem_nil
      · rw [List.dropLast_append_of_ne_nil hrest, List.mem_append, mem_dropLast_lowerFrom_iff hpoint]
        exact or_iff_right hds

/-- **Lower-casing makes an address of an address, and of nothing else.** -/
theorem isAddress_lower (t : Text) : isAddress (lower t) = isAddress t := by
  have hat : '@'.toNat < 65 := by decide
  obtain ⟨afterCased, hdrop⟩ := exists_dropWhile_lowerFrom steady_isAddressChar false t
  rw [isAddress, isAddress, lower, hdrop]
  cases hrest : t.dropWhile isAddressChar with
  | nil => rfl
  | cons c domain =>
      by_cases hc : c = '@'
      · obtain rfl := hc
        rw [lowerFrom, (CaselessClass.of_lt hat).lowerAt_eq (beq_self_eq_true '@'),
          List.singleton_append]
        show (_ && _) = (_ && _)
        rw [all_lowerFrom steady_isAddressChar, hasInnerPoint_lowerFrom,
          isEmpty_takeWhile_lowerFrom steady_isAddressChar]
      · have hhead : (lowerFrom afterCased (c :: domain)).head? ≠ some '@' := by
          rw [Ne, head?_lowerFrom_eq_some_iff hat]
          exact fun h => hc (Option.some.inj h)
        split
        · rename_i hsplit
          rw [hsplit] at hhead
          exact absurd rfl hhead
        · split
          · rename_i hsplit
            exact absurd (List.cons.inj hsplit).1 hc
          · rfl

theorem solid_of_isAddress (h : isAddress t = true) : Solid t :=
  (isAddress_iff_hasPieces.mpr (isAddress_eq_true_iff.mp h)).unblank

/-- No line feed is left behind a trimmed address. -/
theorem isEmail_trim (t : Text) : isEmail t.trim = isAddress (lower t.trim) := by
  have hlast : t.trim.getLast? ≠ some '\n' := by
    intro hlast
    have hblank := (stripped_stripWhere isBlank t).2 '\n' hlast
    exact absurd hblank (by decide)
  rw [isEmail, if_neg hlast, isAddress_lower]

/-- **Whether an address is one does not hang on its spelling.** -/
theorem isEmail_trim_congr (h : canonical a = canonical b) : isEmail a.trim = isEmail b.trim := by
  rw [isEmail_trim, isEmail_trim, Bool.eq_iff_iff]
  constructor
  · intro ha
    rwa [lower_trim_eq_of_canonical_eq h (solid_of_isAddress ha)]
  · intro hb
    rwa [lower_trim_eq_of_canonical_eq h.symm (solid_of_isAddress hb)]

theorem allBlank_congr (h : canonical a = canonical b) : a.allBlank = b.allBlank := by
  rw [Bool.eq_iff_iff, ← trim_eq_nil_iff, ← trim_eq_nil_iff, ← canonical_eq_nil_iff, h,
    canonical_eq_nil_iff]

/-! ## Sizes -/

theorem isDigit_eq_false (h : isBlank c = true) : isDigit c = false := by
  have hchar := isNumberChar_eq_false h
  rw [isNumberChar, Bool.or_eq_false_iff] at hchar
  exact hchar.1

theorem caseless_isNumberChar : CaselessClass isNumberChar :=
  CaselessClass.digits.or (CaselessClass.of_lt (by decide))

/-- A bound is found in a lowered text as it is in the text. -/
theorem findBound?_lowerFrom (hmark : mark.toNat < 65) (afterCased : Bool) (t : Text) :
    findBound? mark (lowerFrom afterCased t) = findBound? mark t := by
  induction t generalizing afterCased with
  | nil => rfl
  | cons c rest ih =>
      rw [lowerFrom]
      cases hc : isDigit c with
      | false =>
          have hlower : ∀ d ∈ lowerAt afterCased c rest, isDigit d = false := fun d hd =>
            (CaselessClass.digits.of_mem_lowerAt hd).trans hc
          rw [findBound?_append hlower, ih, findBound?, hc, Bool.false_and,
            if_neg Bool.false_ne_true]
      | true =>
          generalize (if isCaseIgnorable c then afterCased else isCased c) = afterCased'
          obtain ⟨behind, hbehind⟩ :=
            exists_dropWhile_lowerFrom caseless_isNumberChar.steady afterCased' rest
          obtain ⟨start, hstart⟩ := exists_dropWhile_lowerFrom CaselessClass.blanks.steady behind
            (rest.dropWhile isNumberChar)
          have hhead : ((lowerFrom start (trimStart (rest.dropWhile isNumberChar))).head? == some mark)
              = ((trimStart (rest.dropWhile isNumberChar)).head? == some mark) := by
            rw [Bool.eq_iff_iff, beq_iff_eq, beq_iff_eq, head?_lowerFrom_eq_some_iff hmark]
          rw [CaselessClass.digits.lowerAt_eq hc, List.singleton_append, findBound?, findBound?,
            hbehind, takeWhile_lowerFrom caseless_isNumberChar, trimStart, hstart, ih]
          exact congrArg (fun found => if isDigit c && found then _ else _) hhead

/-- A gap within a bound is one whatever blanks it is made of. -/
theorem findBound?_collapseFrom (inRun : Bool) (t : Text) :
    findBound? mark (collapseFrom isBlank ' ' inRun t) = findBound? mark t := by
  induction t generalizing inRun with
  | nil => rfl
  | cons c t ih =>
      rw [collapseFrom]
      cases hc : isBlank c with
      | true =>
          have hskip : ∀ d rest, isBlank d = true →
              findBound? mark (d :: rest) = findBound? mark rest := fun d rest hd => by
            rw [findBound?, isDigit_eq_false hd, Bool.false_and, if_neg Bool.false_ne_true]
          rw [if_pos rfl, hskip c t hc]
          cases inRun with
          | true => exact ih true
          | false => exact (hskip ' ' _ (by decide)).trans (ih true)
      | false =>
          have hnumber : ∀ c, isBlank c = true → isNumberChar c = false :=
            fun c => isNumberChar_eq_false
          have hcollapse : collapseFrom isBlank ' ' false t = collapse isBlank ' ' t := rfl
          rw [if_neg Bool.false_ne_true, findBound?, findBound?, ih, hcollapse,
            takeWhile_collapse hnumber, dropWhile_collapse hnumber, collapse,
            head?_trimStart_collapseFrom]

/-- Blanks behind a text begin no bound and end none. -/
theorem findBound?_append_blank (hback : ∀ c ∈ back, isBlank c = true) (t : Text) :
    findBound? mark (t ++ back) = findBound? mark t := by
  have hnumber : ∀ c ∈ back.head?, isNumberChar c = false := fun c hc =>
    isNumberChar_eq_false (hback c (List.mem_of_mem_head? hc))
  have htrim : ∀ rest : Text, (trimStart (rest ++ back)).head? = (trimStart rest).head? := by
    intro rest
    rw [trimStart, List.dropWhile_append, trimStart]
    split
    · rename_i hnone
      rw [List.isEmpty_iff.mp hnone, List.dropWhile_eq_nil_iff.mpr hback]
    · rename_i hsome
      rw [List.head?_append_of_ne_nil _ (by simpa using hsome)]
  induction t with
  | nil =>
      have hdigit : ∀ c ∈ back, isDigit c = false := fun c hc => isDigit_eq_false (hback c hc)
      rw [List.nil_append, ← List.append_nil back, findBound?_append hdigit]
  | cons c t ih =>
      have hrun : (t ++ back).takeWhile isNumberChar = t.takeWhile isNumberChar := by
        rw [List.takeWhile_append]
        split
        · rename_i hall
          rw [takeWhile_eq_nil hnumber, List.append_nil]
          exact ((List.takeWhile_prefix _).eq_of_length hall).symm
        · rfl
      have hbehind : (trimStart ((t ++ back).dropWhile isNumberChar)).head?
          = (trimStart (t.dropWhile isNumberChar)).head? := by
        rw [List.dropWhile_append]
        split
        · rename_i hnone
          rw [List.isEmpty_iff.mp hnone, dropWhile_eq_self hnumber]
          exact htrim []
        · exact htrim _
      rw [List.cons_append, findBound?, findBound?, hrun, hbehind, ih]

/-- The bounds of a text are those of its canonical form. -/
theorem findBound?_canonical (hmark : mark.toNat < 65) (t : Text) :
    findBound? mark (canonical t) = findBound? mark t := by
  obtain ⟨front, back, hsplit, hfront, hback⟩ :=
    exists_stripWhere_eq isBlank (collapse isBlank ' ' (lower t))
  calc findBound? mark (canonical t)
      = findBound? mark (front ++ canonical t ++ back) := by
        rw [findBound?_append_blank hback,
          findBound?_append fun c hc => isDigit_eq_false (hfront c hc)]
    _ = findBound? mark (collapse isBlank ' ' (lower t)) :=
        congrArg (findBound? mark) hsplit.symm
    _ = findBound? mark t := by
        rw [collapse, findBound?_collapseFrom, lower, findBound?_lowerFrom hmark]

/-- **The size of a lead does not hang on its spelling.** -/
theorem bucketSize_congr (h : canonical a = canonical b) : bucketSize a = bucketSize b := by
  have hbound : ∀ mark : Char, mark.toNat < 65 → findBound? mark a = findBound? mark b :=
    fun mark hmark => by rw [← findBound?_canonical hmark, h, findBound?_canonical hmark]
  rw [bucketSize, bucketSize, readBound, readBound, readBound, readBound,
    hbound '+' (by decide), hbound '-' (by decide)]

/-! ## Demands -/

theorem compared_isEmpty_congr (h : canonical a = canonical b) :
    (compared a).isEmpty = (compared b).isEmpty := by
  rw [Bool.eq_iff_iff, List.isEmpty_iff, List.isEmpty_iff, compared, compared, lower_eq_nil_iff,
    lower_eq_nil_iff, ← canonical_eq_nil_iff, h, canonical_eq_nil_iff]

/-- **An industry without gaps is found in all spellings or in none.** -/
theorem industryFits_congr (hasked : Solid (compared asked)) (h : canonical a = canonical b) :
    industryFits asked a = industryFits asked b := by
  have hfound : includes (compared asked) (compared a) = includes (compared asked) (compared b) :=
    includes_congr hasked h
  rw [industryFits, industryFits, compared_isEmpty_congr h, hfound]

/-- **So is one of several regions without gaps.** -/
theorem regionFits_congr (hasked : ∀ region ∈ regions asked, Solid region)
    (h : canonical a = canonical b) : regionFits asked a = regionFits asked b := by
  have hany : ((regions asked).any fun region => includes region (compared a))
      = (regions asked).any fun region => includes region (compared b) := by
    rw [Bool.eq_iff_iff, List.any_eq_true, List.any_eq_true]
    refine exists_congr fun region => and_congr_right fun hregion => ?_
    exact Bool.eq_iff_iff.mp (includes_congr (hasked region hregion) h)
  rw [regionFits, regionFits, compared_isEmpty_congr h, hany]

end LeadScreen.Rule
