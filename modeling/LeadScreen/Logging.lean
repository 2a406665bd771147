import LeadScreen.Number.Whole

set_option autoImplicit false

/-!
# Setting up the log

A log passes on the messages of at least a level. It is set up once: the first level that is named
counts, and an unknown one stands for the level of information.
-/

namespace LeadScreen

def logLevels : List (Text × Nat) :=
  [("DEBUG", 10), ("INFO", 20), ("WARNING", 30), ("WARN", 30), ("ERROR", 40), ("CRITICAL", 50),
   ("FATAL", 50), ("NOTSET", 0)]

/-- The capital of a letter, as far as letters are concerned that occur in the name of a level: the
long s and the i without a dot have the same capitals as their common forms. -/
def capital (c : Char) : Char :=
  if c = 'ſ' then 'S' else if c = 'ı' then 'I' else c.toUpper

def logWeight (level : Text) : Nat :=
  ((logLevels.find? fun entry => decide (entry.1 = level.map capital)).map (·.2)).getD 20

/-- The levels of the logs, by weight. -/
structure Logging where
  /-- The main log. -/
  root : Nat := 30
  /-- Where the main log writes to. -/
  handlers : List Nat := []
  /-- The log of the server. -/
  server : Nat := 0
  /-- The logs of uploads. -/
  uploads : Nat := 0
deriving DecidableEq, Repr

namespace Logging

/-- Sets up the logs, unless the main log writes somewhere already. -/
def setUp (level : Text) (l : Logging) : Logging :=
  if l.handlers.isEmpty then
    { root := logWeight level, handlers := [logWeight level], server := 20, uploads := 30 }
  else l

/-- Setting up a second time changes nothing. -/
theorem setUp_setUp (first second : Text) (l : Logging) :
    (l.setUp first).setUp second = l.setUp first := by
  unfold setUp
  split <;> simp_all

example : logWeight "Warning".toList = 30 := by decide +kernel

end Logging

end LeadScreen
