import LeadScreen.Json.Read
import LeadScreen.Report.Sheet
import LeadScreen.Service.Upload
import LeadScreen.Settings.Basic

set_option autoImplicit false

/-!
# Responses of the service

The service judges one lead or a table of leads, reports on a table in a workbook and shows how a
requisition is read. A table that cannot be read and data that do not fit make a response that says
so; what is left are failures without a response.
-/

namespace LeadScreen.Service

inductive Failure where
  /-- The comments of a requisition are refused. -/
  | comments (e : Markup.Error)
  /-- The reading of a table breaks off. -/
  | table (e : Table.Error)
  /-- A row of a report cannot be written. -/
  | report (e : Report.Error)
  /-- The name of a report cannot be a header. -/
  | header (f : HeaderFault)
deriving DecidableEq, Repr

/-! ## Data -/

def leadData (lead : Lead) : Json.Value :=
  .object (Column.all.map fun c => (c.name, .text (lead.get c)))

def commentData (v : Verdict) : Json.Value :=
  match v.comment with
  | some t => .text t
  | none => .null

def verdictData (v : Verdict) : Json.Value :=
  .object [("result".toList, .text v.finding.name), ("comment".toList, commentData v)]

/-- A verdict as data, without a comment when it has none. -/
def briefVerdictData (v : Verdict) : Json.Value :=
  match v.comment with
  | some _ => verdictData v
  | none => .object [("result".toList, .text v.finding.name)]

def tallyData (t : Report.Tally) : Json.Value :=
  .object (Finding.all.map fun f => (f.name, .whole (t.get f)))

def judgedData (row : Report.Judged) : Json.Value :=
  .object [("record".toList, leadData row.lead), ("verdict".toList, verdictData row.verdict)]

def requisitionData (r : Requisition) : Json.Value :=
  let values (entry : Text × List Text) : Text × Json.Value :=
    (entry.1, .array (entry.2.map .text))
  .object
    [("meta".toList, .object (r.terms.map fun entry => (entry.1, .text entry.2))),
     ("comments".toList,
       .object (r.comments.map fun entry => (entry.1.name, .object (entry.2.map values))))]

/-! ## Requests with data -/

/-- What a request says is wrong with its data as a whole. -/
def bodyFlaw (kind : Text) : Response :=
  .flaws [⟨["body"], kind⟩]

/-- The object that a request carries, or the response when there is none. A file is no object. -/
def objectOf : Body → Except Response Json.Value
  | .empty => .error (bodyFlaw "missing")
  | .upload _ => .error (bodyFlaw "model_attributes_type")
  | .data [] => .error (bodyFlaw "missing")
  | .data t =>
    let t := if t.head? = some '\uFEFF' then t.drop 1 else t
    match Json.read t with
    | .ok (.object entries) => .ok (.object entries)
    | .ok _ => .error (bodyFlaw "model_attributes_type")
    | .error (.malformed left) =>
      .error (.flaws [⟨["body", natText (t.length - left)], "json_invalid"⟩])
    | .error (.digits _) => .error (.detail 400 "There was an error parsing the body")

def leadOf (v : Json.Value) : Lead :=
  Lead.ofColumns fun c => ((v.get? c.name).getD .null).fieldText

def respondToLead (settings : Settings) (body : Body) : Response :=
  match objectOf body with
  | .error r => r
  | .ok v => .ofData 200 (briefVerdictData (Rule.judge settings.titleDemand (leadOf v)))

def respondToRequisition (body : Body) : Except Failure Response :=
  match objectOf body with
  | .error r => .ok r
  | .ok v =>
    match (v.get? "req").getD (.text []) with
    | .text t =>
      match Requisition.read t with
      | .ok requisition => .ok (.ofData 200 (requisitionData requisition))
      | .error e => .error (.comments e)
    | _ => .ok (.flaws [⟨["body", "req"], "string_type"⟩])

/-! ## Requests with a table -/

/-- The field of a form that a table is uploaded in. -/
def uploadField : Text := "file"

/-- What a request says is wrong with its file. -/
def fileFlaw (kind : Text) : Response :=
  .flaws [⟨["body", uploadField], kind⟩]

/-- The file that a request carries, or the response when there is none. A file without a name
arrives as a text. -/
def uploadOf : Body → Except Response Upload
  | .empty => .error (fileFlaw "missing")
  | .data _ => .error (fileFlaw "missing")
  | .upload u =>
    if u.field != uploadField then .error (fileFlaw "missing")
    else if u.fileName.isEmpty then
      .error (fileFlaw (if u.content.isEmpty then "missing" else "value_error"))
    else .ok { u with fileName := arrivedName u.fileName }

/-- The status of the response to a table that cannot be read. -/
def errorStatus : Table.Error → Nat
  | .empty => 400
  | .unsupported _ => 415
  | _ => 422

/-- What comes of a request with a table: a response at once, or a file and its judged leads. -/
def judgedUpload (settings : Settings) (body : Body) :
    Except Failure (Except Response (Upload × List Report.Judged)) :=
  match uploadOf body with
  | .error r => .ok (.error r)
  | .ok u =>
    let reading := Table.read (some u.fileName) u.contentType (.content u.content)
    match reading.error with
    | some e =>
      if e.isSource then .ok (.error (.detail (errorStatus e) e.message)) else .error (.table e)
    | none => .ok (.ok (u, Report.judgeAll settings.titleDemand reading.leads))

def tableData (rows : List Report.Judged) : Json.Value :=
  .object
    [("rows".toList, .array (rows.map judgedData)),
     ("counts".toList, tallyData (.ofRows rows)),
     ("warnings".toList,
       .array (if rows.isEmpty then [.text "File contains no data rows."] else []))]

def respondToTable (settings : Settings) (body : Body) : Except Failure Response := do
  match ← judgedUpload settings body with
  | .error r => return r
  | .ok (_, rows) => return .ofData 200 (tableData rows)

def respondWithReport (settings : Settings) (body : Body) : Except Failure Response := do
  match ← judgedUpload settings body with
  | .error r => return r
  | .ok (u, rows) =>
    let sheet ← (Report.sheet settings.sheetName rows).mapError .report
    let disposition ← (reportDisposition u.fileName).mapError .header
    return {
      status := 200
      contentType := Table.workbookType
      disposition := some disposition
      content := .workbook sheet }

end LeadScreen.Service
