import LeadScreen.CommandLine.Arguments
import LeadScreen.CommandLine.Folder
import LeadScreen.Report.Flow
import LeadScreen.Report.Sheet
import LeadScreen.Settings.Basic

set_option autoImplicit false

/-!
# Running a command

A command screens the leads of a table and saves a report, or starts the service. Leads are read,
judged, counted and written one at a time; the report is saved when every row of it has been
written.
-/

namespace LeadScreen.CommandLine

/-! ## Screening -/

inductive Failure where
  /-- It cannot be read, or not to its end. -/
  | source (e : Table.Error)
  /-- A row of the report cannot be written. -/
  | report (e : Report.Error)
  /-- The report cannot be saved. -/
  | save (path : Text) (f : Folder.SaveFault)
deriving DecidableEq, Repr

namespace Failure

def message : Failure → Text
  | .source e => e.message
  | .report e => e.message
  | .save path f => f.message path

/-- Whether a command reports the failure itself: those of the files that it is given. What comes up
while a table is read, and a report that cannot be written, are failures of the command. -/
def isReported : Failure → Bool
  | .source (.notFound _) => true
  | .source e => e.isSource
  | .report _ => false
  | .save _ _ => true

end Failure

/-- Whether the error shows when a file is looked at, before any of it is read. -/
def isImmediate : Table.Error → Bool
  | .empty => true
  | .unsupported _ => true
  | .notFound _ => true
  | _ => false

/-- Writes the rows that are still to come, one after the other, and saves the report behind the
last one: the folder afterwards, and the tally or why there is none. -/
def complete (demand : Rule.TitleDemand) (folder : Folder) (output : Text) (draft : Report.Draft)
    (flow : Report.Flow) : Folder × Except Failure Report.Tally :=
  match _h : flow.next demand with
  | .row row rest =>
    match draft.append row with
    | .ok draft => complete demand folder output draft rest
    | .error e => (folder, .error (.report e))
  | .ended (some e) => (folder, .error (.source e))
  | .ended none =>
    match folder.save output draft.sheet with
    | .ok folder => (folder, .ok flow.tally)
    | .error f => (folder, .error (.save output f))
termination_by flow.ahead.leads.length
decreasing_by exact Report.Flow.length_ahead_of_next _h

/-- Screens the leads of an input into an output: the folder afterwards, and the tally or why there
is none. The file is looked at before the report is begun, and read row by row after that. -/
def screen (settings : Settings) (folder : Folder) (input output : Text) :
    Folder × Except Failure Report.Tally :=
  let reading := folder.readTable input
  match reading.error.filter isImmediate with
  | some e => (folder, .error (.source e))
  | none =>
    match Report.Draft.start settings.sheetName with
    | .error e => (folder, .error (.report e))
    | .ok draft => complete settings.titleDemand folder output draft ⟨reading, {}⟩

/-! ## Commands -/

def usage : Text :=
  "usage: lead_validator [-h] [--serve] [--port PORT] [input] [output]\n"

def help : Text :=
  usage ++ ("\nValidate lead rows against requisition rules.\n\n"
    ++ "positional arguments:\n"
    ++ "  input        Lead file (.csv or .xlsx)\n"
    ++ "  output       Report path (default: output.xlsx)\n\n"
    ++ "options:\n"
    ++ "  -h, --help   show this help message and exit\n"
    ++ "  --serve      Start the HTTP API instead\n"
    ++ "  --port PORT\n").toList

def inputWanted : Text :=
  "Usage: python -m lead_validator <input.csv|input.xlsx> [output.xlsx]\n"

/-- What a command leaves behind. -/
structure Effect where
  folder : Folder
  printed : Text := []
  complained : Text := []
  /-- The number that the service listens on, if it was started. -/
  served : Option Int := none
  /-- The exit code, or a failure that the command does not report itself. -/
  ending : Except Failure Nat := .ok 0

def run (settings : Settings) (folder : Folder) (arguments : List Text) : Effect :=
  match readArguments arguments with
  | .error .help => { folder := folder, printed := help }
  | .error (.refused r) =>
    { folder := folder
      complained := usage ++ "lead_validator: error: ".toList ++ r.message ++ ['\n']
      ending := .ok 2 }
  | .ok a =>
    if a.serve then { folder := folder, served := some a.listenOn }
    else
      match (a.input.getD []) with
      | [] => { folder := folder, complained := inputWanted, ending := .ok 1 }
      | input =>
        match screen settings folder input a.output with
        | (folder, .ok _) => { folder := folder }
        | (folder, .error failure) =>
          if failure.isReported then
            { folder := folder
              complained := "Error: ".toList ++ failure.message ++ ['\n']
              ending := .ok 1 }
          else { folder := folder, ending := .error failure }

end LeadScreen.CommandLine
