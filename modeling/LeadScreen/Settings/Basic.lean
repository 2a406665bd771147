import LeadScreen.Rule.Title

set_option autoImplicit false

/-!
# Settings

What can be set from outside: the name of the service, how much it logs, how much of a title is
asked for and the title of report sheets.
-/

namespace LeadScreen

structure Settings where
  appName : Text := "Lead Validator"
  logLevel : Text := "INFO"
  titleDemand : Rule.TitleDemand := {}
  sheetName : Text := "Result"
deriving DecidableEq, Repr

end LeadScreen
