import LeadScreen.CommandLine.Run
import LeadScreen.Logging
import LeadScreen.Settings.Read
import LeadScreen.Table.Csv.Printer

set_option autoImplicit false

/-!
# The command

Gathers what a command needs from outside, runs it and carries out what it leaves behind. A report
is saved as comma-separated values, and the service is not started: only what it would listen on is
named.
-/

namespace LeadScreen

/-- The variables of the environment that are settings. -/
def gatherVariables : IO Settings.Entries := do
  let mut entries := []
  for name in Settings.names do
    let full := (Settings.nameMark ++ name).map Char.toUpper
    if let some value ← IO.getEnv (String.ofList full) then
      entries := entries ++ [(full, value.toList)]
  return entries

/-- The text of a file; empty when it cannot be read. -/
def gatherText (path : String) : IO Text := do
  try
    return Table.fileText (← IO.FS.readBinFile path).toList
  catch _ => return []

def packAsCsv (sheet : Table.Sheet) : List UInt8 :=
  let records := sheet.rows.map fun row => row.map Table.Cell.toText
  (String.ofList (Table.Csv.write records)).toUTF8.toList

/-- The folder that a command sees: its input, and the folder of its output. -/
def gatherFolder (a : CommandLine.Arguments) : IO Folder := do
  let input := Path.normal (a.input.getD [])
  let files ← try
      let bytes ← IO.FS.readBinFile (String.ofList input)
      pure [(input, Table.Content.bytes bytes.toList)]
    catch _ => pure []
  let parent := Path.parent a.output
  let folders ← try
      let _ ← IO.FS.realPath (String.ofList parent)
      pure [".".toList, parent]
    catch _ => pure [".".toList]
  return { files := files, folders := folders, pack := packAsCsv }

def saveWorkbooks (folder : Folder) : IO Unit := do
  for (path, content) in folder.files do
    if let .bytes _ := content then continue
    IO.FS.writeBinFile (String.ofList path) (ByteArray.mk content.data.toArray)

def runCommand (arguments : List String) : IO UInt32 := do
  let arguments := arguments.map String.toList
  let complain (t : Text) : IO Unit := IO.eprint (String.ofList t)
  match Settings.read (← gatherVariables) (← gatherText ".env") with
  | .error complaints =>
    complain (Settings.messageOf complaints ++ ['\n'])
    return 1
  | .ok settings =>
    let folder ← match CommandLine.readArguments arguments with
      | .ok a => gatherFolder a
      | .error _ => pure {}
    let effect := CommandLine.run settings folder arguments
    IO.print (String.ofList effect.printed)
    complain effect.complained
    if let some number := effect.served then
      complain ("The service was asked to listen on ".toList ++ intText number ++ ['\n'])
    match effect.ending with
    | .ok code =>
      saveWorkbooks effect.folder
      return UInt32.ofNat code
    | .error failure =>
      complain (failure.message ++ ['\n'])
      return 1

end LeadScreen

def main (arguments : List String) : IO UInt32 :=
  LeadScreen.runCommand arguments
