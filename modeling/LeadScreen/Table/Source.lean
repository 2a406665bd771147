import LeadScreen.Table.Csv
import LeadScreen.Table.Leads
import LeadScreen.Table.Sheet
import LeadScreen.Table.Utf8
import LeadScreen.Text.Quoted

set_option autoImplicit false

/-!
# Reading lead tables

A lead table comes as bytes, as the path of a file or as an open file. The extension of its name
decides how it is read, and the content type where the extension does not: as comma-separated
values or as a workbook, of which the first sheet counts.
-/

namespace LeadScreen.Table

/-! ## What is read -/

/-- The content of a file: its bytes, and what they are when they are taken for a workbook. -/
inductive Content where
  /-- No archive with a list of its parts. -/
  | bytes (data : List UInt8)
  /-- An archive with parts that make no workbook, and what is said of them. -/
  | archive (complaint : Text) (data : List UInt8)
  /-- A workbook, its sheets as a parser finds them. If the first one breaks off behind the rows
  that it has here, it is known what is said of that. -/
  | workbook (sheets : List Sheet) (data : List UInt8) (complaint : Option Text := none)
deriving DecidableEq, Repr

inductive Source where
  /-- The content itself. -/
  | content (content : Content)
  /-- A path, with the content of the file if there is one. -/
  | path (path : Text) (content : Option Content)
  /-- An open file. -/
  | openFile (content : Content)
deriving DecidableEq, Repr

/-! ## Errors -/

inductive WorkbookFault where
  /-- It is no archive. -/
  | noArchive
  /-- It is an archive without the list of its parts. -/
  | noParts
  /-- Its parts make no workbook. -/
  | parts (complaint : Text)
  /-- Its path has an extension, or none, that workbooks do not have. -/
  | extension (ext : Text)
deriving DecidableEq, Repr

namespace WorkbookFault

/-- What is reported of the fault. Two extensions are known to be those of other workbooks. -/
def message : WorkbookFault → Text
  | .noArchive => "File is not a zip file"
  | .noParts => "\"There is no item named '[Content_Types].xml' in the archive\""
  | .parts complaint => complaint
  | .extension ext =>
    if ext = ".xls".toList then
      "openpyxl does not support the old .xls file format, please use xlrd to read this ".toList
        ++ "file, or convert it to the more recent .xlsx file format.".toList
    else if ext = ".xlsb".toList then
      "openpyxl does not support binary format .xlsb, please convert this file to ".toList
        ++ ".xlsx format if you want to open it with openpyxl".toList
    else
      "openpyxl does not support ".toList ++ ext
        ++ " file format, please check you can open it with Excel first. ".toList
        ++ "Supported formats are: .xlsx,.xlsm,.xltx,.xltm".toList

end WorkbookFault

/-- Why a table cannot be read, or not to its end. -/
inductive Error where
  /-- There is nothing in it. -/
  | empty
  /-- Neither its name nor its content type says how to read it. -/
  | unsupported (name : Text)
  /-- All its rows are blank. -/
  | noHeader
  /-- It is to be read as a workbook and cannot be. -/
  | workbook (fault : WorkbookFault)
  /-- A field of comma-separated values is too large. -/
  | largeField
  /-- There is no sheet in a workbook. -/
  | noSheet
  /-- The sheet of a workbook breaks off. -/
  | brokenSheet (complaint : Text)
  /-- There is no file at its path. -/
  | notFound (path : Text)
deriving DecidableEq, Repr

namespace Error

def message : Error → Text
  | .empty => "Empty file uploaded."
  | .unsupported name => "Unsupported input type: ".toList ++ name
  | .noHeader => "File has no header row."
  | .workbook fault => "Not a readable XLSX workbook: ".toList ++ fault.message
  | .largeField => "field larger than field limit (131072)"
  | .noSheet => "list index out of range"
  | .brokenSheet complaint => complaint
  | .notFound path => "[Errno 2] No such file or directory: ".toList ++ path.quoted

/-- Whether the error says that what is given is no table. The others come from the file system, and
from a reader that is on its way through the rows. -/
def isSource : Error → Bool
  | .empty => true
  | .unsupported _ => true
  | .noHeader => true
  | .workbook _ => true
  | .largeField => false
  | .noSheet => false
  | .brokenSheet _ => false
  | .notFound _ => false

end Error

/-- Leads read one after the other, and the error that ended them, if one did. -/
structure Reading where
  leads : List Lead
  error : Option Error := none
deriving DecidableEq, Repr

/-! ## Comma-separated values -/

/-- The leads of rows, of which an error may have cut off the rest. -/
def readRows (rows : List Row) (error : Option Error) : Reading :=
  match leadsOf? rows with
  | some leads => ⟨leads, error⟩
  | none => ⟨[], some (error.getD .noHeader)⟩

def readCsv (t : Text) : Reading :=
  let contents := Csv.read t
  readRows (contents.records.map fun record => record.map .text)
    (if contents.tooLarge then some .largeField else none)

/-! ## Workbooks -/

/-- Reads the first sheet of a workbook, as its cells are given back; there may be a complaint where
it breaks off. -/
def readSheets (sheets : List Sheet) (complaint : Option Text := none) : Reading :=
  match sheets with
  | [] => ⟨[], some .noSheet⟩
  | sheet :: _ =>
    readRows (padRows (sheet.rows.map fun row => row.map Cell.stored)) (complaint.map .brokenSheet)

/-- The mark with which the end of an archive begins. -/
def archiveEndMark : List UInt8 :=
  [0x50, 0x4B, 0x05, 0x06]

/-- The size of the end of an archive without a comment. -/
def archiveEndSize : Nat := 22

/-- Whether an archive ends in the bytes: a mark stands at least as far from their end as the end
of an archive is long. -/
def endsArchive (data : List UInt8) : Bool :=
  match data with
  | [] => false
  | _ :: rest =>
    (archiveEndMark.isPrefixOf data && decide (archiveEndSize ≤ data.length)) || endsArchive rest

def readWorkbook : Content → Reading
  | .bytes data => ⟨[], some (.workbook (if endsArchive data then .noParts else .noArchive))⟩
  | .archive complaint _ => ⟨[], some (.workbook (.parts complaint))⟩
  | .workbook sheets _ complaint => readSheets sheets complaint

/-- The extensions that the path of a workbook may have. -/
def workbookExtensions : List Text :=
  [".xlsx", ".xlsm", ".xltx", ".xltm"]

/-- The last part of a path as it is written: what follows the last slash. -/
def baseName (path : Text) : Text :=
  (path.reverse.takeWhile (· != '/')).reverse

/-- The extension of a path, with its point; points at the start of the last part begin none. -/
def extensionOf (path : Text) : Text :=
  let base := (baseName path).dropWhile (· == '.')
  if base.elem '.' then '.' :: (base.reverse.takeWhile (· != '.')).reverse else []

/-! ## Choosing how to read -/

inductive Format where
  | csv
  | workbook
deriving DecidableEq, Repr

def csvTypes : List Text :=
  ["text/csv", "application/csv", "text/plain", "application/vnd.ms-excel"]

def workbookType : Text :=
  "application/vnd.openxmlformats-officedocument.spreadsheetml.sheet"

/-- How a table with a name and a content type is read; case does not matter. -/
def formatOf? (name contentType : Text) : Option Format :=
  let name := Text.lower name
  let contentType := Text.lower contentType
  if Text.endsWith ".xlsx" name || (!Text.endsWith ".csv" name && contentType == workbookType) then
    some .workbook
  else if Text.endsWith ".csv" name || csvTypes.elem contentType then some .csv
  else none

/-- What a table is called in an error: its name, or else its content type. -/
def calledAs (name contentType : Option Text) : Text :=
  let name := name.getD []
  if name.isEmpty then contentType.getD "None" else name

namespace Content

def data : Content → List UInt8
  | .bytes data => data
  | .archive _ data => data
  | .workbook _ data _ => data

def text (content : Content) : Text :=
  fileText content.data

/-- Whether there is nothing in a file. An archive is never empty. -/
def isEmpty : Content → Bool
  | .bytes data => data.isEmpty
  | _ => false

/-- What is said of a part of an archive that cannot be parsed, the place in it left out. -/
def unparsable : Text :=
  "not well-formed (invalid token)"

/-- The content of a file that a workbook with one sheet is saved in. -/
def ofSheet (sheet : Sheet) (data : List UInt8) : Content :=
  if sheet.isParsable then .workbook [sheet.parsed] data else .archive unparsable data

def readAs (content : Content) : Format → Reading
  | .csv => readCsv content.text
  | .workbook => readWorkbook content

end Content

/-- Reads a table. Whether there is a file, and something in it, is looked at first; an open file
is never found empty. -/
def read (name contentType : Option Text) (source : Source) : Reading :=
  let format := formatOf? (name.getD []) (contentType.getD [])
  let unsupported : Reading := ⟨[], some (.unsupported (calledAs name contentType))⟩
  match source with
  | .path path none => ⟨[], some (.notFound path)⟩
  | .path path (some content) =>
    if content.isEmpty then ⟨[], some .empty⟩
    else
      match format with
      | none => unsupported
      | some .csv => content.readAs .csv
      | some .workbook =>
        let ext := Text.lower (extensionOf path)
        if workbookExtensions.elem ext then content.readAs .workbook
        else ⟨[], some (.workbook (.extension ext))⟩
  | .content content =>
    if content.isEmpty then ⟨[], some .empty⟩
    else (format.map content.readAs).getD unsupported
  | .openFile content => (format.map content.readAs).getD unsupported

end LeadScreen.Table
