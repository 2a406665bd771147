import LeadScreen.Markup.Error
import LeadScreen.Markup.Reference.Table

set_option autoImplicit false

/-!
# Character references

A reference names a character, `&amp;`, or gives its number, `&#38;` or `&#x26;`. It has to be
followed by a character that cannot belong to it; a semicolon there is part of the reference.
-/

namespace LeadScreen.Markup

/-! ## What a reference stands for -/

/-- The characters that the numbers from 128 to 159 stand for, where they differ from the control
characters with these numbers. -/
def windowsCharacters : List (Nat × Char) :=
  [(0x80, '€'), (0x82, '‚'), (0x83, 'ƒ'), (0x84, '„'), (0x85, '…'), (0x86, '†'), (0x87, '‡'),
   (0x88, 'ˆ'), (0x89, '‰'), (0x8A, 'Š'), (0x8B, '‹'), (0x8C, 'Œ'), (0x8E, 'Ž'), (0x91, '‘'),
   (0x92, '’'), (0x93, '“'), (0x94, '”'), (0x95, '•'), (0x96, '–'), (0x97, '—'), (0x98, '˜'),
   (0x99, '™'), (0x9A, 'š'), (0x9B, '›'), (0x9C, 'œ'), (0x9E, 'ž'), (0x9F, 'Ÿ')]

/-- The character with a number. Zero and what is no character give the replacement character. -/
def numberedCharacter (n : Nat) : Char :=
  if n = 0 || 0x10FFFF < n || (0xD800 ≤ n && n ≤ 0xDFFF) then '\uFFFD'
  else ((windowsCharacters.find? (·.1 == n)).map (·.2)).getD (Char.ofNat n)

/-- The characters that a name stands for. An unknown name stands for itself, ampersand and all. -/
def namedText (name : Text) : Text :=
  match namedCharacters.find? (·.1 == String.ofList name) with
  | some entry => entry.2.map Char.ofNat
  | none => '&' :: name

/-! ## Reading a reference -/

def isHexDigit (c : Char) : Bool :=
  isAsciiDigit c || ('a' ≤ c && c ≤ 'f') || ('A' ≤ c && c ≤ 'F')

def hexValue (c : Char) : Nat :=
  if isAsciiDigit c then c.toNat - '0'.toNat
  else if 'a' ≤ c then c.toNat - 'a'.toNat + 10
  else c.toNat - 'A'.toNat + 10

def hexNumber (digits : Text) : Nat :=
  digits.foldl (fun n c => 16 * n + hexValue c) 0

def isReferenceChar (c : Char) : Bool :=
  c.isAlphanum || c == '-' || c == '.'

inductive Reference where
  /-- A decimal number. -/
  | decimal (digits : Text) (rest : Text)
  /-- A hexadecimal number. -/
  | hexadecimal (digits : Text) (rest : Text)
  /-- A name. -/
  | named (name : Text) (rest : Text)
  /-- No reference. -/
  | absent

/-- The text behind a reference, less its semicolon. -/
def dropSemicolon : Text → Text
  | ';' :: rest => rest
  | rest => rest

theorem dropSemicolon_suffix (t : Text) : dropSemicolon t <:+ t := by
  unfold dropSemicolon
  split
  · exact List.suffix_cons _ _
  · exact List.suffix_refl _

theorem length_dropWhile_le (p : Char → Bool) (t : Text) :
    (t.dropWhile p).length ≤ t.length :=
  (List.dropWhile_suffix p).length_le

/-- The part before the last hyphen or point, and the part from there on. -/
def cutAtLastMark? (name : Text) : Option (Text × Text) :=
  match name.reverse.dropWhile fun c => c.isAlphanum with
  | [] => none
  | mark :: before =>
    some (before.reverse, mark :: (name.reverse.takeWhile fun c => c.isAlphanum).reverse)

/-- Reads the number behind `&#`. A number has to be followed by what is no hexadecimal digit. -/
def readNumber (t : Text) : Reference :=
  let digits := t.takeWhile isAsciiDigit
  match t with
  | [] => .absent
  | x :: hex =>
    if digits.isEmpty then
      if x == 'x' || x == 'X' then
        match hex.dropWhile isHexDigit with
        | [] => .absent
        | next :: rest =>
          if (hex.takeWhile isHexDigit).isEmpty then .absent
          else .hexadecimal (hex.takeWhile isHexDigit) (dropSemicolon (next :: rest))
      else .absent
    else
      match t.dropWhile isAsciiDigit with
      | [] => .absent
      | next :: rest =>
        if isHexDigit next then .absent else .decimal digits (dropSemicolon (next :: rest))

/-- Reads the name behind `&`. At the end of the text a name ends at its last hyphen or point. -/
def readName (t : Text) : Reference :=
  match t with
  | [] => .absent
  | first :: tail =>
    if first.isAlpha then
      match tail.dropWhile isReferenceChar with
      | next :: rest =>
        .named (first :: tail.takeWhile isReferenceChar) (dropSemicolon (next :: rest))
      | [] =>
        match cutAtLastMark? tail with
        | some (before, rest) => .named (first :: before) rest
        | none => .absent
    else .absent

namespace Reference

def rest? : Reference → Option Text
  | .decimal _ rest => some rest
  | .hexadecimal _ rest => some rest
  | .named _ rest => some rest
  | .absent => none

def text : Reference → Except Error Text
  | .decimal digits _ =>
    match readDigits digits with
    | .ok n => .ok [numberedCharacter n]
    | .error e => .error (.oversizedReference e)
  | .hexadecimal digits _ => .ok [numberedCharacter (hexNumber digits)]
  | .named name _ => .ok (namedText name)
  | .absent => .ok []

end Reference

/-- What is left behind a number is the end of the text. -/
theorem suffix_of_readNumber {t rest : Text} (h : (readNumber t).rest? = some rest) :
    rest <:+ t := by
  unfold readNumber at h
  split at h
  · cases h
  · rename_i x hex
    dsimp only at h
    split at h
    · split at h
      · split at h
        · cases h
        · rename_i next tail hdrop
          split at h
          · cases h
          · obtain rfl := Option.some.inj h
            have hdigits : next :: tail <:+ hex := hdrop ▸ List.dropWhile_suffix isHexDigit
            exact (dropSemicolon_suffix _).trans (hdigits.trans (List.suffix_cons x hex))
      · cases h
    · split at h
      · cases h
      · rename_i next tail hdrop
        split at h
        · cases h
        · obtain rfl := Option.some.inj h
          have hdigits : next :: tail <:+ x :: hex := hdrop ▸ List.dropWhile_suffix isAsciiDigit
          exact (dropSemicolon_suffix _).trans hdigits

theorem length_rest_readNumber {t rest : Text} (h : (readNumber t).rest? = some rest) :
    rest.length ≤ t.length :=
  (suffix_of_readNumber h).length_le

theorem suffix_of_cutAtLastMark? {name before rest : Text}
    (h : cutAtLastMark? name = some (before, rest)) : rest <:+ name := by
  unfold cutAtLastMark? at h
  split at h
  · cases h
  · rename_i mark tail heq
    obtain ⟨rfl, rfl⟩ := Prod.mk.inj (Option.some.inj h)
    refine List.reverse_prefix.mp ⟨tail, ?_⟩
    rw [List.reverse_cons, List.reverse_reverse, List.append_assoc, List.singleton_append, ← heq,
      List.takeWhile_append_dropWhile]

/-- What is left behind a name is the end of the text. -/
theorem suffix_of_readName {t rest : Text} (h : (readName t).rest? = some rest) : rest <:+ t := by
  unfold readName at h
  split at h
  · cases h
  · rename_i first tail
    split at h
    · split at h
      · rename_i next after hdrop
        obtain rfl := Option.some.inj h
        have hname : next :: after <:+ tail := hdrop ▸ List.dropWhile_suffix isReferenceChar
        exact (dropSemicolon_suffix _).trans (hname.trans (List.suffix_cons first tail))
      · split at h
        · rename_i before after hcut
          obtain rfl := Option.some.inj h
          exact (suffix_of_cutAtLastMark? hcut).trans (List.suffix_cons first tail)
        · cases h
    · cases h

theorem length_rest_readName {t rest : Text} (h : (readName t).rest? = some rest) :
    rest.length ≤ t.length :=
  (suffix_of_readName h).length_le

end LeadScreen.Markup
