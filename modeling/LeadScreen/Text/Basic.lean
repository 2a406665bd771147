set_option autoImplicit false

/-!
# Text

A text is a list of code points. Everything the program compares, cuts or stores is a text, so
its laws are laws of lists. This module holds the operations that know nothing of character
classes: cutting at a character, splitting, joining and searching.
-/

namespace LeadScreen

abbrev Text := List Char

/-- A string literal may stand where a text is wanted. -/
instance : Coe String Text := ⟨String.toList⟩

namespace Text

/-! ## Cutting -/

/-- The part before the first `sep` and the part after it; nothing when `sep` does not occur. -/
def cut? (sep : Char) : Text → Option (Text × Text)
  | [] => none
  | c :: rest =>
    if c = sep then some ([], rest)
    else (cut? sep rest).map fun parts => (c :: parts.1, parts.2)

/-- A cut gives the text back when the separator is put between its two parts. -/
theorem eq_of_cut? {sep : Char} {t before after : Text} (h : cut? sep t = some (before, after)) :
    t = before ++ sep :: after := by
  induction t generalizing before with
  | nil => simp [cut?] at h
  | cons c rest ih =>
    rw [cut?] at h
    split at h
    · rename_i hc
      obtain ⟨rfl, rfl⟩ := Prod.mk.inj (Option.some.inj h)
      simp [hc]
    · obtain ⟨⟨b, a⟩, hb, hparts⟩ := Option.map_eq_some_iff.1 h
      obtain ⟨rfl, rfl⟩ := Prod.mk.inj hparts
      simp [ih hb]

/-- What stands after a cut is shorter than the text. -/
theorem length_of_cut? {sep : Char} {t before after : Text}
    (h : cut? sep t = some (before, after)) : after.length < t.length := by
  rw [eq_of_cut? h]
  simp
  omega

theorem suffix_of_cut? {sep : Char} {t before after : Text}
    (h : cut? sep t = some (before, after)) : after <:+ t :=
  ⟨before ++ [sep], by rw [eq_of_cut? h, List.append_assoc, List.singleton_append]⟩

/-- The pieces between the characters that satisfy `p`; a text without any is one piece. -/
def splitWhere (p : Char → Bool) : Text → List Text
  | [] => [[]]
  | c :: rest =>
    if p c then [] :: splitWhere p rest
    else
      match splitWhere p rest with
      | [] => [[c]]
      | piece :: pieces => (c :: piece) :: pieces

theorem splitWhere_ne_nil (p : Char → Bool) (t : Text) : splitWhere p t ≠ [] := by
  cases t with
  | nil => simp [splitWhere]
  | cons c rest =>
    rw [splitWhere]
    split
    · simp
    · split <;> simp

/-- The pieces between the occurrences of `sep`. -/
def splitOn (sep : Char) (t : Text) : List Text :=
  splitWhere (· == sep) t

/-! ## Joining and replacing -/

def joinWith (sep : Text) (parts : List Text) : Text :=
  List.intercalate sep parts

def replace (old : Char) (new : Text) (t : Text) : Text :=
  t.flatMap fun c => if c = old then new else [c]

/-- Each maximal run of characters that satisfy `p` becomes one `mark`. `inRun` tells whether the
character before was part of a run. -/
def collapseFrom (p : Char → Bool) (mark : Char) : Bool → Text → Text
  | _, [] => []
  | inRun, c :: rest =>
    if p c then
      if inRun then collapseFrom p mark true rest else mark :: collapseFrom p mark true rest
    else c :: collapseFrom p mark false rest

/-- Each maximal run of characters that satisfy `p` becomes one `mark`. -/
def collapse (p : Char → Bool) (mark : Char) (t : Text) : Text :=
  collapseFrom p mark false t

def stripWhere (p : Char → Bool) (t : Text) : Text :=
  (((t.dropWhile p).reverse).dropWhile p).reverse

/-! ## Searching -/

/-- Whether `needle` occurs in the text, as one stretch. -/
def includes (needle : Text) : Text → Bool
  | [] => needle.isEmpty
  | c :: rest => needle.isPrefixOf (c :: rest) || includes needle rest

def endsWith (tail t : Text) : Bool :=
  tail.isSuffixOf t

def afterPrefix? : Text → Text → Option Text
  | [], t => some t
  | _ :: _, [] => none
  | a :: head, c :: rest => if a = c then afterPrefix? head rest else none

/-- What follows a prefix gives the text when the prefix is put before it. -/
theorem eq_of_afterPrefix? {head t rest : Text} (h : afterPrefix? head t = some rest) :
    t = head ++ rest := by
  induction head generalizing t with
  | nil => simpa [afterPrefix?] using h
  | cons a head ih =>
    cases t with
    | nil => simp [afterPrefix?] at h
    | cons c tail =>
      rw [afterPrefix?] at h
      split at h
      · rename_i hac
        simp [hac, ih h]
      · simp at h

end Text

end LeadScreen
