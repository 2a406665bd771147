import LeadScreen.Proofs.Number.Digits
import LeadScreen.Proofs.Rule.Size
import LeadScreen.Proofs.Text.Strip

set_option autoImplicit false

/-! # The runs in a size

The search for a bound goes from place to place and takes up at any digit. What it finds still
belongs to the first whole run of digits and commas that has a digit and the mark behind it
(`FirstRun`), from the first digit of that run to its end, and where nothing is found there is no
such run. So a size is read as the number that the digits of its first run spell, if they are not
too many (`sizes_read_by_runs`).
-/

namespace LeadScreen

variable {mark c : Char} {t before run after written : Text}

namespace Rule

/-- **A written number is read as the number that its digits spell**, if they are not too many. -/
theorem writtenNumber_eq (h : IsWritten written) : writtenNumber written
    = if (digitValues written).length ≤ digitLimit
      then .ok (Nat.ofDigits 10 (digitValues written).reverse)
      else .error ⟨(digitValues written).length⟩ := by
  have hspelled : spelledNumber (written.filter (· != ','))
      = Nat.ofDigits 10 (digitValues written).reverse := by
    rw [spelledNumber_eq, digitValues_filter_ne_comma]
  rw [writtenNumber, readDigits, length_filter_ne_comma h, hspelled, length_digitValues]

/-! ## Runs -/

/-- **A run that states a bound**: digits and commas as far as they go to either side, a digit among
them, and the mark behind them, with blanks between or not. -/
structure BoundRun (mark : Char) (t before run after : Text) : Prop where
  split : t = before ++ (run ++ after)
  spelled : ∀ c ∈ run, isNumberChar c = true
  left : ∀ c ∈ before.getLast?, isNumberChar c = false
  right : ∀ c ∈ after.head?, isNumberChar c = false
  digit : ∃ c ∈ run, isDigit c = true
  marked : ∃ blanks behind, (∀ c ∈ blanks, isBlank c = true) ∧ after = blanks ++ mark :: behind

/-- **The first run that states a bound.** -/
def FirstRun (mark : Char) (t run : Text) : Prop :=
  ∃ before after, BoundRun mark t before run after
    ∧ ∀ before' run' after', BoundRun mark t before' run' after' → before.length ≤ before'.length

def HasRun (mark : Char) (t : Text) : Prop :=
  ∃ before run after, BoundRun mark t before run after

theorem FirstRun.hasRun (h : FirstRun mark t run) : HasRun mark t := by
  obtain ⟨before, after, hrun, -⟩ := h
  exact ⟨before, run, after, hrun⟩

/-- A bound begins at every digit of such a run. -/
theorem BoundRun.begins {lead : Text} (h : BoundRun mark t before (lead ++ c :: written) after)
    (hc : isDigit c = true) :
    Begins mark (t.drop (before.length + lead.length)) (c :: written) := by
  obtain ⟨blanks, behind, hblanks, hafter⟩ := h.marked
  have hdrop : t.drop (before.length + lead.length) = c :: written ++ after := by
    have hsplit : t = (before ++ lead) ++ (c :: written ++ after) := by
      rw [h.split]
      simp
    rw [hsplit]
    exact List.drop_left' (by simp)
  refine ⟨⟨⟨c, rfl, hc⟩, fun d hd => h.spelled d (List.mem_append_right lead hd)⟩, blanks, behind,
    hblanks, ?_⟩
  rw [hdrop, hafter]

/-- A run that states a bound has a digit, where a bound begins. -/
theorem BoundRun.exists_begins (h : BoundRun mark t before run after) :
    ∃ n < before.length + run.length, ∃ written, Begins mark (t.drop n) written := by
  obtain ⟨c, hc, hdigit⟩ := h.digit
  obtain ⟨lead, rest, rfl⟩ := List.append_of_mem hc
  refine ⟨before.length + lead.length, ?_, c :: rest, h.begins hdigit⟩
  rw [List.length_append, List.length_cons]
  omega

/-- Where a bound begins, there is a run around it: what it reads, and the digits and commas that
stand before. -/
theorem Begins.exists_run {n : Nat} (hmark : IsMark mark) (h : Begins mark (t.drop n) written) :
    ∃ before lead after, BoundRun mark t before (lead ++ written) after
      ∧ before.length + lead.length = n := by
  obtain ⟨⟨⟨c, hc, hdigit⟩, hspelled⟩, blanks, behind, hblanks, htext⟩ := h
  -- the run goes back from the place as far as digits and commas do
  obtain ⟨before, lead, hfront, hlead, hleft⟩ := Text.exists_run_at_end isNumberChar (t.take n)
  have hsplit : t = before ++ (lead ++ written ++ (blanks ++ mark :: behind)) := by
    calc t = t.take n ++ t.drop n := (List.take_append_drop n t).symm
      _ = before ++ (lead ++ written ++ (blanks ++ mark :: behind)) := by
          rw [hfront, htext]
          simp
  have hlength : before.length + lead.length = n := by
    have hlt : n < t.length := by
      by_contra hle
      rw [List.drop_eq_nil_of_le (by omega)] at htext
      simpa using congrArg List.length htext
    rw [← List.length_append, ← hfront, List.length_take]
    omega
  refine ⟨before, lead, _, ⟨hsplit, fun d hd => ?_, hleft, hmark.ends_number hblanks, ?_, blanks,
    behind, hblanks, rfl⟩, hlength⟩
  · rcases List.mem_append.mp hd with hd | hd
    · exact hlead d hd
    · exact hspelled d hd
  · exact ⟨c, List.mem_append_right lead (List.mem_of_mem_head? hc), hdigit⟩

/-- Runs do not overlap: one that begins before another also ends before it. -/
theorem BoundRun.length_le {before' run' after' : Text} (h : BoundRun mark t before run after)
    (h' : BoundRun mark t before' run' after') (hlt : before'.length < before.length) :
    before'.length + run'.length ≤ before.length := by
  by_contra hle
  -- the character before the later run would be one of the earlier run
  have hne : before ≠ [] := by
    rintro rfl
    exact absurd hlt (Nat.not_lt_zero _)
  have hc := List.getLast?_eq_getLast_of_ne_nil hne
  have hlast : t[before.length - 1]? = some (before.getLast hne) := by
    rw [h.split, List.getElem?_append_left (by omega), ← List.getLast?_eq_getElem?, hc]
  rw [h'.split, List.getElem?_append_right (by omega), List.getElem?_append_left (by omega)] at hlast
  have hspelled := h'.spelled _ (List.mem_of_getElem? hlast)
  rw [h.left _ hc] at hspelled
  cases hspelled

/-- A text has one first run at most. -/
theorem FirstRun.unique {run' : Text} (h : FirstRun mark t run) (h' : FirstRun mark t run') :
    run = run' := by
  obtain ⟨before, after, hrun, hfirst⟩ := h
  obtain ⟨before', after', hrun', hfirst'⟩ := h'
  have hlength : before.length = before'.length :=
    Nat.le_antisymm (hfirst _ _ _ hrun') (hfirst' _ _ _ hrun)
  have hsplit := hrun.split.symm.trans hrun'.split
  obtain ⟨-, hrest⟩ := List.append_inj hsplit hlength
  -- from the same place both go on as far as they can
  obtain ⟨hmax, -⟩ := Text.run_iff.mpr ⟨rfl, hrun.spelled, hrun.right⟩
  obtain ⟨hmax', -⟩ := Text.run_iff.mpr ⟨rfl, hrun'.spelled, hrun'.right⟩
  rw [← hmax, ← hmax', hrest]

/-! ## The search -/

/-- **What the search finds begins with the first digit of the first run.** -/
theorem exists_firstRun (hmark : IsMark mark) (h : findBound? mark t = some written) :
    ∃ lead, FirstRun mark t (lead ++ written) ∧ ∀ c ∈ lead, isDigit c = false := by
  obtain ⟨n, hbegins, hfirst⟩ := (findBound?_eq_some_iff hmark).mp h
  obtain ⟨before, lead, after, hrun, rfl⟩ := hbegins.exists_run hmark
  refine ⟨lead, ⟨before, after, hrun, fun before' run' after' hrun' => ?_⟩, fun c hc => ?_⟩
  · -- in a run that begins before, a bound would begin before
    by_contra hlt
    have hle := hrun.length_le hrun' (by omega)
    obtain ⟨n, hn, other, hbegins'⟩ := hrun'.exists_begins
    exact hfirst n (by omega) other hbegins'
  · -- a digit in front would be the first of the run, and the search would stop there
    by_contra hdigit
    obtain ⟨lead', rest, rfl⟩ := List.append_of_mem hc
    have hsplit : lead' ++ c :: rest ++ written = lead' ++ c :: (rest ++ written) := by simp
    rw [hsplit] at hrun
    refine hfirst (before.length + lead'.length) ?_ _ (hrun.begins (by simpa using hdigit))
    simp

/-- **Nothing is found** exactly if no run states a bound. -/
theorem findBound?_eq_none_iff_not_hasRun (hmark : IsMark mark) :
    findBound? mark t = none ↔ ¬ HasRun mark t := by
  constructor
  · rintro hnone ⟨before, run, after, hrun⟩
    obtain ⟨n, -, written, hbegins⟩ := hrun.exists_begins
    obtain ⟨first, hfirst⟩ := hbegins.exists_firstBound
    exact (findBound?_eq_none_iff hmark).mp hnone first hfirst
  · intro h
    cases hfound : findBound? mark t with
    | none => rfl
    | some written =>
        obtain ⟨lead, hfirst, -⟩ := exists_firstRun hmark hfound
        exact absurd hfirst.hasRun h

/-! ## What is read -/

/-- **What is read of a text at a mark**: the number that the digits of the first run spell, unless
they are too many, and nothing where there is no run. Commas count for nothing, wherever in the run
they stand. -/
inductive ReadsRun (mark : Char) (t : Text) : Except TooManyDigits (Option Nat) → Prop where
  | absent (h : ¬ HasRun mark t) : ReadsRun mark t (.ok none)
  | number {run : Text} (h : FirstRun mark t run) (hdigits : (digitValues run).length ≤ digitLimit) :
      ReadsRun mark t (.ok (some (Nat.ofDigits 10 (digitValues run).reverse)))
  | oversized {run : Text} (h : FirstRun mark t run)
      (hdigits : digitLimit < (digitValues run).length) :
      ReadsRun mark t (.error ⟨(digitValues run).length⟩)

/-- One thing is read at most. -/
theorem ReadsRun.unique {r r' : Except TooManyDigits (Option Nat)} (h : ReadsRun mark t r)
    (h' : ReadsRun mark t r') : r = r' := by
  cases h with
  | absent hnone =>
      cases h' with
      | absent => rfl
      | number hfirst => exact absurd hfirst.hasRun hnone
      | oversized hfirst => exact absurd hfirst.hasRun hnone
  | number hfirst hdigits =>
      cases h' with
      | absent hnone => exact absurd hfirst.hasRun hnone
      | number hfirst' => rw [hfirst.unique hfirst']
      | oversized hfirst' hdigits' =>
          rw [hfirst.unique hfirst'] at hdigits
          omega
  | oversized hfirst hdigits =>
      cases h' with
      | absent hnone => exact absurd hfirst.hasRun hnone
      | number hfirst' hdigits' =>
          rw [hfirst.unique hfirst'] at hdigits
          omega
      | oversized hfirst' => rw [hfirst.unique hfirst']

theorem readsRun_readBound (hmark : IsMark mark) (t : Text) :
    ReadsRun mark t (readBound mark t) := by
  unfold readBound
  cases hfound : findBound? mark t with
  | none => exact .absent ((findBound?_eq_none_iff_not_hasRun hmark).mp hfound)
  | some written =>
      obtain ⟨lead, hfirst, hlead⟩ := exists_firstRun hmark hfound
      have hwritten := ((findBound?_eq_some_iff hmark).mp hfound).isWritten
      have hvalues : digitValues written = digitValues (lead ++ written) := by
        rw [digitValues_append, digitValues_eq_nil hlead, List.nil_append]
      dsimp only
      rw [writtenNumber_eq hwritten, hvalues]
      split
      · rename_i hdigits
        exact .number hfirst hdigits
      · rename_i hdigits
        exact .oversized hfirst (by omega)

theorem readBound_eq_iff (hmark : IsMark mark) {r : Except TooManyDigits (Option Nat)} :
    readBound mark t = r ↔ ReadsRun mark t r := by
  constructor
  · rintro rfl
    exact readsRun_readBound hmark t
  · exact (readsRun_readBound hmark t).unique

/-- **Sizes are read by whole runs.** The lower bound that is asked for is read of the first run of
digits and commas that has a digit and a plus behind it: it is the number that the digits of this run
spell, it is refused exactly if they are more than 4300, and nothing is read exactly if there is no
such run. A bucket is read in the same way where it has such a run, and else of the first one with a
minus behind it. -/
theorem sizes_read_by_runs (t : Text) (r : Except TooManyDigits (Option Nat)) :
    (minimumSize t = r ↔ ReadsRun '+' t r)
      ∧ (bucketSize t = r ↔ HasRun '+' t ∧ ReadsRun '+' t r ∨ ¬ HasRun '+' t ∧ ReadsRun '-' t r) := by
  refine ⟨readBound_eq_iff isMark_plus, ?_⟩
  have hrun := not_congr (findBound?_eq_none_iff_not_hasRun (t := t) isMark_plus)
  rw [not_not, ← ne_eq, ← Option.isSome_iff_ne_none] at hrun
  unfold bucketSize
  split
  · rename_i hplus
    have hsome : HasRun '+' t := hrun.mp hplus
    rw [readBound_eq_iff isMark_plus]
    simp [hsome]
  · rename_i hplus
    have hnone : ¬ HasRun '+' t := fun h => hplus (hrun.mpr h)
    rw [readBound_eq_iff isMark_minus]
    simp [hnone]

example : bucketSize "12, ,,1,0,00 -5 or 250\t+".toList = .ok (some 250) := by decide +kernel

example : bucketSize "12, ,,1,0,00 -5".toList = .ok (some 1000) := by decide +kernel

end Rule

end LeadScreen
