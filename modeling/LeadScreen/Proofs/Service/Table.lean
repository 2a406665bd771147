import LeadScreen.Proofs.Table.Source
import LeadScreen.Service.Route

set_option autoImplicit false

/-! # Requests with a table

What the service makes of an uploaded table is decided by how its reading ends: a table that is read
to its end is judged, one that cannot be read is reported with a status of its own, and one whose
reading breaks off makes no response at all. The verdicts and the report are requested apart, but the
reading is the same.
-/

namespace LeadScreen.Service

open Report

variable {settings : Settings} {body : Body} {u : Upload} {leads : List Lead} {e : Table.Error}
  {response : Response}

/-! ## Routes -/

def tableRequest (body : Body) : Request :=
  ⟨"POST", "/validate", body⟩

def reportRequest (body : Body) : Request :=
  ⟨"POST", "/validate/report", body⟩

theorem respond_tableRequest : respond settings (tableRequest body) = respondToTable settings body :=
  rfl

theorem respond_reportRequest :
    respond settings (reportRequest body) = respondWithReport settings body :=
  rfl

/-! ## Reading -/

def Upload.reading (u : Upload) : Table.Reading :=
  Table.read (some u.fileName) u.contentType (.content u.content)

theorem errorStatus_ne_ok (e : Table.Error) : errorStatus e ≠ 200 := by
  cases e <;> exact nofun

section

variable (hu : uploadOf body = .ok u)
include hu

theorem judgedUpload_eq :
    judgedUpload settings body
      = match u.reading.error with
        | some e =>
          if e.isSource then .ok (.error (.detail (errorStatus e) e.message)) else .error (.table e)
        | none => .ok (.ok (u, judgeAll settings.titleDemand u.reading.leads)) := by
  simp only [judgedUpload, hu]
  rfl

theorem judgedUpload_of_rows (h : u.reading.error = none) :
    judgedUpload settings body
      = .ok (.ok (u, judgeAll settings.titleDemand u.reading.leads)) := by
  rw [judgedUpload_eq hu, h]

theorem judgedUpload_of_error (h : u.reading.error = some e) (he : e.isSource = true) :
    judgedUpload settings body = .ok (.error (.detail (errorStatus e) e.message)) := by
  rw [judgedUpload_eq hu, h]
  exact if_pos he

theorem judgedUpload_of_breaksOff (h : u.reading.error = some e) (he : e.isSource = false) :
    judgedUpload settings body = .error (.table e) := by
  rw [judgedUpload_eq hu, h]
  exact if_neg (Bool.eq_false_iff.mp he)

/-! ## Responses -/

/-- The verdicts on a table that is read to its end. -/
theorem respond_table_of_rows (h : u.reading.error = none) :
    respond settings (tableRequest body)
      = .ok (.ofData 200 (tableData (judgeAll settings.titleDemand u.reading.leads))) := by
  rw [respond_tableRequest, respondToTable, judgedUpload_of_rows hu h]
  rfl

/-- **A table that cannot be read is reported**, and the two requests agree on it. -/
theorem respond_of_error (h : u.reading.error = some e) (he : e.isSource = true) :
    respond settings (tableRequest body) = .ok (.detail (errorStatus e) e.message)
      ∧ respond settings (reportRequest body) = .ok (.detail (errorStatus e) e.message) := by
  rw [respond_tableRequest, respondToTable, respond_reportRequest, respondWithReport,
    judgedUpload_of_error hu h he]
  exact ⟨rfl, rfl⟩

/-- **A reading that breaks off makes no response.** -/
theorem respond_of_breaksOff (h : u.reading.error = some e) (he : e.isSource = false) :
    respond settings (tableRequest body) = .error (.table e)
      ∧ respond settings (reportRequest body) = .error (.table e) := by
  rw [respond_tableRequest, respondToTable, respond_reportRequest, respondWithReport,
    judgedUpload_of_breaksOff hu h he]
  exact ⟨rfl, rfl⟩

end

/-- Without a file that arrives, the request is flawed. -/
theorem status_of_uploadOf_eq_error (h : uploadOf body = .error response) :
    response.status = 422 := by
  unfold uploadOf at h
  split at h
  · cases h
    rfl
  · cases h
    rfl
  · split at h
    · cases h
      rfl
    · split at h
      · cases h
        rfl
      · exact nomatch h

/-- **When there are verdicts**: a file arrives, and it is read to its end. -/
theorem respond_table_ok_iff :
    respond settings (tableRequest body) = .ok response ∧ response.status = 200
      ↔ ∃ u, uploadOf body = .ok u ∧ u.reading.error = none
        ∧ response = .ofData 200 (tableData (judgeAll settings.titleDemand u.reading.leads)) := by
  constructor
  · rintro ⟨hrespond, hstatus⟩
    cases hu : uploadOf body with
    | error r =>
        rw [respond_tableRequest, respondToTable, judgedUpload, hu] at hrespond
        obtain rfl := Except.ok.inj hrespond
        exact nomatch hstatus.symm.trans (status_of_uploadOf_eq_error hu)
    | ok u =>
        cases herror : u.reading.error with
        | none =>
            rw [respond_table_of_rows hu herror] at hrespond
            exact ⟨u, rfl, herror, (Except.ok.inj hrespond).symm⟩
        | some e =>
            cases he : e.isSource with
            | false =>
                rw [(respond_of_breaksOff hu herror he).1] at hrespond
                exact nomatch hrespond
            | true =>
                rw [(respond_of_error hu herror he).1] at hrespond
                obtain rfl := Except.ok.inj hrespond
                exact absurd hstatus (errorStatus_ne_ok e)
  · rintro ⟨u, hu, herror, rfl⟩
    exact ⟨respond_table_of_rows hu herror, rfl⟩

end LeadScreen.Service
