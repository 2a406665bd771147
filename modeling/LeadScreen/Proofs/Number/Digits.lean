import LeadScreen.Number.Whole
import LeadScreen.Text.Blank
import Mathlib.Data.List.Basic
import Mathlib.Data.List.Induction
import Mathlib.Data.Nat.Digits.Defs

set_option autoImplicit false

/-! # Numbers in digits

A number is written in its digits, or in groups of three of them with commas between the groups
(`rendered`). Either way its digits spell it (`spelledNumber_natText`), and they are what is left
when the commas are taken out (`filter_rendered`). What a text spells is the number whose decimal
digits are the values of its own (`spelledNumber_eq`).
-/

namespace LeadScreen

variable {c : Char} {t : Text} {n : Nat}

/-! ## Digits -/

/-- A digit of a written number is an ASCII digit. -/
theorem isAsciiDigit_of_mem_natText (h : c ∈ natText n) : isAsciiDigit c = true := by
  have hdigit := Nat.isDigit_of_mem_toDigits (by decide) (by decide) h
  simp only [Char.isDigit, Bool.and_eq_true, decide_eq_true_eq] at hdigit
  rw [isAsciiDigit, Bool.and_eq_true, decide_eq_true_eq, decide_eq_true_eq]
  exact hdigit

theorem isDigit_of_isAsciiDigit (h : isAsciiDigit c = true) : isDigit c = true := by
  rw [isDigit, digitValue?_of_isAsciiDigit h, Option.isSome_some]

/-- The number that ASCII digits spell is the one that the core library reads. -/
theorem spelledNumber_eq_ofDigitChars (h : ∀ c ∈ t, isAsciiDigit c = true) :
    spelledNumber t = Nat.ofDigitChars 10 t 0 := by
  have hvalues : t.filterMap digitValue? = t.map fun c => c.toNat - '0'.toNat := by
    rw [← List.filterMap_eq_map]
    exact List.filterMap_congr fun c hc => digitValue?_of_isAsciiDigit (h c hc)
  rw [spelledNumber, ofDigits, hvalues, List.foldl_map]
  rfl

/-- **The digits of a number spell it.** -/
theorem spelledNumber_natText (n : Nat) : spelledNumber (natText n) = n := by
  rw [spelledNumber_eq_ofDigitChars fun c => isAsciiDigit_of_mem_natText]
  exact Nat.ofDigitChars_ten_toDigits

/-! ## The values of digits -/

/-- The values of the digits of a text, most significant first. -/
def digitValues (t : Text) : List Nat :=
  t.filterMap digitValue?

theorem ofDigits_eq (digits : List Nat) : ofDigits digits = Nat.ofDigits 10 digits.reverse := by
  induction digits using List.reverseRecOn with
  | nil => rfl
  | append_singleton digits d ih =>
      rw [ofDigits, List.foldl_concat, ← ofDigits, ih, List.reverse_concat, Nat.ofDigits_cons]
      omega

/-- **The number that a text spells** has the values of its digits for decimal digits. -/
theorem spelledNumber_eq (t : Text) : spelledNumber t = Nat.ofDigits 10 (digitValues t).reverse :=
  ofDigits_eq (digitValues t)

theorem digitValues_append (a b : Text) : digitValues (a ++ b) = digitValues a ++ digitValues b :=
  List.filterMap_append

theorem digitValues_eq_nil (h : ∀ c ∈ t, isDigit c = false) : digitValues t = [] := by
  refine List.filterMap_eq_nil_iff.mpr fun c hc => ?_
  simpa [isDigit] using h c hc

theorem length_digitValues (t : Text) : (digitValues t).length = t.countP isDigit := by
  rw [digitValues, List.length_filterMap_eq_countP]
  rfl

/-- Commas have no value. -/
theorem digitValues_filter_ne_comma (t : Text) :
    digitValues (t.filter (· != ',')) = digitValues t := by
  rw [digitValues, digitValues, List.filterMap_filter]
  refine List.filterMap_congr fun c _ => ?_
  by_cases hcomma : c = ','
  · rw [hcomma]
    decide
  · rw [if_pos (by simpa using hcomma)]

/-! ## Groups of digits -/

/-- Digits with a comma before every third one from the end, but for the first. -/
def groupDigits : Text → Text
  | [] => []
  | c :: rest =>
    if rest ≠ [] ∧ rest.length % 3 = 0 then c :: ',' :: groupDigits rest else c :: groupDigits rest

/-- **A number as it is written**: in its digits, with or without commas between groups of three. -/
def rendered (commas : Bool) (n : Nat) : Text :=
  if commas then groupDigits (natText n) else natText n

example : rendered true 1234567 = "1,234,567".toList := by decide

theorem head?_groupDigits (t : Text) : (groupDigits t).head? = t.head? := by
  cases t with
  | nil => rfl
  | cons c rest =>
      rw [groupDigits]
      split <;> rfl

theorem mem_groupDigits (h : c ∈ groupDigits t) : c = ',' ∨ c ∈ t := by
  induction t with
  | nil => cases h
  | cons d rest ih =>
      have hrest : c ∈ groupDigits rest → c = ',' ∨ c ∈ d :: rest := fun h =>
        (ih h).imp id (List.mem_cons_of_mem d)
      rw [groupDigits] at h
      split at h
      · rcases List.mem_cons.mp h with rfl | h
        · exact Or.inr List.mem_cons_self
        · rcases List.mem_cons.mp h with rfl | h
          · exact Or.inl rfl
          · exact hrest h
      · rcases List.mem_cons.mp h with rfl | h
        · exact Or.inr List.mem_cons_self
        · exact hrest h

theorem filter_groupDigits (t : Text) :
    (groupDigits t).filter (· != ',') = t.filter (· != ',') := by
  have hcomma : ∀ rest : Text, (',' :: rest).filter (· != ',') = rest.filter (· != ',') :=
    fun rest => List.filter_cons_of_neg (by decide)
  induction t with
  | nil => rfl
  | cons c rest ih =>
      rw [groupDigits]
      split
      · rw [List.filter_cons, hcomma, ih, List.filter_cons]
      · rw [List.filter_cons, ih, List.filter_cons]

theorem ne_comma_of_isAsciiDigit (h : isAsciiDigit c = true) : c ≠ ',' := by
  rintro rfl
  exact absurd h (by decide)

/-- Without its commas, a written number is its digits. -/
theorem filter_rendered (commas : Bool) (n : Nat) :
    (rendered commas n).filter (· != ',') = natText n := by
  have hdigits : (natText n).filter (· != ',') = natText n := by
    refine List.filter_eq_self.mpr fun c hc => ?_
    simpa using ne_comma_of_isAsciiDigit (isAsciiDigit_of_mem_natText hc)
  cases commas with
  | false => exact hdigits
  | true => exact (filter_groupDigits (natText n)).trans hdigits

theorem mem_rendered {commas : Bool} (h : c ∈ rendered commas n) :
    c = ',' ∨ isAsciiDigit c = true := by
  cases commas with
  | false => exact Or.inr (isAsciiDigit_of_mem_natText h)
  | true => exact (mem_groupDigits h).imp id isAsciiDigit_of_mem_natText

/-- A written number begins with a digit. -/
theorem exists_head?_rendered (commas : Bool) (n : Nat) :
    ∃ c ∈ (rendered commas n).head?, isAsciiDigit c = true := by
  have hne : natText n ≠ [] := Nat.toDigits_ne_nil
  obtain ⟨c, rest, hdigits⟩ := List.exists_cons_of_ne_nil hne
  have hhead : (rendered commas n).head? = some c := by
    cases commas with
    | false => rw [rendered, if_neg Bool.false_ne_true, hdigits, List.head?_cons]
    | true => rw [rendered, if_pos rfl, head?_groupDigits, hdigits, List.head?_cons]
  refine ⟨c, hhead, isAsciiDigit_of_mem_natText (n := n) ?_⟩
  rw [hdigits]
  exact List.mem_cons_self

end LeadScreen
