import LeadScreen.Text.Case.Table

set_option autoImplicit false

/-!
# Lower case

Full lower-casing of a text. A character is lowered by itself, but for two: the capital I with a
dot becomes two characters, and a capital sigma becomes the final sigma at the end of a word, that
is, when a cased letter stands before it and none behind it, case-ignorable characters aside.
-/

namespace LeadScreen

/-- Whether the number lies in one of the closed ranges. -/
def inRanges (ranges : List (Nat × Nat)) (n : Nat) : Bool :=
  ranges.any fun range => range.1 ≤ n && n ≤ range.2

namespace CaseStretch

/-- Whether the stretch gives the character's lower-case form. -/
def covers (s : CaseStretch) (n : Nat) : Bool :=
  s.first ≤ n && n ≤ s.last && (n - s.first) % s.step == 0

end CaseStretch

/-- Whether the character has a case and counts when a capital sigma is lowered. -/
def isCased (c : Char) : Bool :=
  if c.toNat < 128 then c.isAlpha else inRanges casedRanges c.toNat

/-- Whether the character is passed over when a capital sigma is lowered. -/
def isCaseIgnorable (c : Char) : Bool :=
  if c.toNat < 128 then c = '\'' || c = '.' || c = ':' || c = '^' || c = '`'
  else inRanges caseIgnorableRanges c.toNat

/-- The lower-case form of a character that has one of a single character; else the character. -/
def lowerChar (c : Char) : Char :=
  if c.toNat < 128 then c.toLower
  else
    match caseStretches.find? (·.covers c.toNat) with
    | some s => Char.ofNat (s.target + (c.toNat - s.first))
    | none => c

/-- Whether a character is the given lower-case letter when case is disregarded. Two letters have
counterparts besides those that lower to them: the long s, and the i with or without its dot. -/
def matchesLetter (letter c : Char) : Bool :=
  lowerChar c == letter || (letter == 's' && c == 'ſ')
    || (letter == 'i' && (c == 'ı' || c == 'İ'))

namespace Text

/-- The text after a lower-case word, case disregarded, when it starts with that word. -/
def afterWord? : Text → Text → Option Text
  | [], t => some t
  | _ :: _, [] => none
  | letter :: word, c :: rest => if matchesLetter letter c then afterWord? word rest else none

theorem suffix_of_afterWord? {word t rest : Text} (h : afterWord? word t = some rest) :
    rest <:+ t := by
  induction word generalizing t with
  | nil =>
    rw [afterWord?] at h
    obtain rfl := Option.some.inj h
    exact List.suffix_refl _
  | cons letter word ih =>
    cases t with
    | nil => cases h
    | cons c tail =>
      rw [afterWord?] at h
      split at h
      · exact (ih h).trans (List.suffix_cons c tail)
      · cases h

/-- Whether a cased character comes first, case-ignorable ones aside. -/
def startsCased : Text → Bool
  | [] => false
  | c :: rest => if isCaseIgnorable c then startsCased rest else isCased c

/-- The lower-case form of one character before `rest`; `afterCased` tells whether the nearest
character before it that is not case-ignorable is cased. -/
def lowerAt (afterCased : Bool) (c : Char) (rest : Text) : Text :=
  if c = 'Σ' then [if afterCased && !startsCased rest then 'ς' else 'σ']
  else if c = 'İ' then ['i', '\u0307']
  else [lowerChar c]

/-- The lower-case form of a text that follows a cased character or does not. -/
def lowerFrom : Bool → Text → Text
  | _, [] => []
  | afterCased, c :: rest =>
    lowerAt afterCased c rest
      ++ lowerFrom (if isCaseIgnorable c then afterCased else isCased c) rest

def lower (t : Text) : Text :=
  lowerFrom false t

example : lower "ΟΔΟΣ ΟΔΟΣ".toList = "οδος οδος".toList := by decide +kernel

example : lower "İD K".toList = "i\u0307d k".toList := by decide +kernel

end Text

end LeadScreen
