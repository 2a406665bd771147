import LeadScreen.Settings.Basic
import LeadScreen.Settings.Value

set_option autoImplicit false

/-!
# Reading settings

Settings come from the variables of the environment and from the lines of a file. Their names start
with a mark of their own, and case does not matter. A variable counts before a line, and of several
lines or variables with one name, case aside, the last one counts. Names that are no settings are
passed over.
All values are looked at, and every one that is refused is reported.
-/

namespace LeadScreen.Settings

abbrev Entries := List (Text × Text)

/-! ## The file -/

/-- The value on a line, without blanks around it and without a comment behind a blank. -/
def lineValue : Text → Text
  | [] => []
  | c :: rest =>
    if isBlank c && (rest.dropWhile isBlank).head? == some '#' then [] else c :: lineValue rest

/-- The entry of a line: what stands before the first equality sign and what stands behind it. A
line without one, a blank line and a comment make none. -/
def lineEntry? (line : Text) : Option (Text × Text) :=
  let line := line.trim
  if line.head? = some '#' then none
  else
    (Text.cut? '=' line).map fun parts =>
      (Text.trim parts.1, Text.trim (lineValue (Text.trim parts.2)))

def endsFileLine (c : Char) : Bool :=
  c == '\n' || c == '\r'

/-- The entries of a file. A line takes the place of an earlier one with the very same name. -/
def fileEntries (file : Text) : Entries :=
  ((Text.splitWhere endsFileLine file).filterMap lineEntry?).foldl
    (fun entries entry => Assoc.set entry.1 entry.2 entries) []

/-! ## Looking up -/

/-- What the name of every setting starts with, in lower case. -/
def nameMark : Text :=
  "lead_validator_"

def names : List Text :=
  ["app_name", "log_level", "output_sheet_name", "title_min_keyword_coverage",
   "title_min_level_coverage", "title_min_total_coverage", "title_missing_limit",
   "title_require_title"]

/-- The value of a setting: the last entry of its name. -/
def find? (entries : Entries) (name : Text) : Option Text :=
  (entries.reverse.find? fun entry => decide (Text.lower entry.1 = nameMark ++ name)).map (·.2)

structure Complaint where
  /-- The name of the setting. -/
  name : Text
  fault : Fault
deriving DecidableEq, Repr

namespace Complaint

def message (c : Complaint) : Text :=
  c.name ++ ": ".toList ++ c.fault.name

end Complaint

def messageOf (complaints : List Complaint) : Text :=
  Text.joinWith "; " (complaints.map Complaint.message)

/-- The value of a setting, with a complaint if there is one and it is refused. A setting without a
value keeps its default. -/
def readField {α : Type} (entries : Entries) (name : Text) (default : α)
    (read : Text → Except Fault α) : α × List Complaint :=
  match (find? entries name).map read with
  | none => (default, [])
  | some (.ok value) => (value, [])
  | some (.error fault) => (default, [⟨name, fault⟩])

/-! ## Reading -/

/-- Reads how much of a title is asked for. The complaints come in the order of the names. -/
def readTitleDemand (entries : Entries) : Rule.TitleDemand × List Complaint :=
  let basic : Rule.TitleDemand := {}
  let keywords := readField entries "title_min_keyword_coverage" basic.keywords readNumber
  let levels := readField entries "title_min_level_coverage" basic.levels readNumber
  let total := readField entries "title_min_total_coverage" basic.total readNumber
  let listed := readField entries "title_missing_limit" basic.listed readWhole
  let required := readField entries "title_require_title" basic.titleRequired readTruth
  (⟨total.1, levels.1, keywords.1, required.1, listed.1⟩,
    keywords.2 ++ levels.2 ++ total.2 ++ listed.2 ++ required.2)

def read (environment : Entries) (file : Text) : Except (List Complaint) Settings :=
  let entries := fileEntries file ++ environment
  let basic : Settings := {}
  let text (name default : Text) := (find? entries name).getD default
  let (demand, complaints) := readTitleDemand entries
  if complaints.isEmpty then
    .ok
      { appName := text "app_name" basic.appName
        logLevel := text "log_level" basic.logLevel
        titleDemand := demand
        sheetName := text "output_sheet_name" basic.sheetName }
  else .error complaints

example : fileEntries "# a\n B = c # d\nE".toList = [("B".toList, "c".toList)] := by
  decide +kernel

end LeadScreen.Settings
