import LeadScreen.Markup.Reference
import LeadScreen.Text.Blank

set_option autoImplicit false

/-!
# Tags

How far a tag reaches, and which element it starts or ends. Attributes are read only to find the
end of a start tag, since a quoted value may hold what would end it, and for the references in
their values.
-/

namespace LeadScreen.Markup

/-! ## Start tags -/

def endsTagName (c : Char) : Bool :=
  c == '\t' || c == '\n' || c == '\r' || c == '\x0C' || c == ' ' || c == '/' || c == '>'
    || c == '\x00'

/-- Whether the character can stand in the name of an attribute, behind the first place. -/
def isAttributeChar (c : Char) : Bool :=
  !(isBlank c || c == '/' || c == '=' || c == '>')

/-- Whether the character can stand in a value without quotes. -/
def isBareChar (c : Char) : Bool :=
  !(isBlank c || c == '>')

def isQuote (c : Char) : Bool :=
  c == '\'' || c == '"'

/-- Passes over blanks and slashes; the slash of a self-closing tag is left. -/
def skipFiller : Text → Text
  | [] => []
  | c :: rest =>
    if isBlank c || (c == '/' && rest.head? != some '>') then skipFiller rest else c :: rest

theorem skipFiller_suffix (t : Text) : skipFiller t <:+ t := by
  induction t with
  | nil => exact List.suffix_refl _
  | cons c rest ih =>
    rw [skipFiller]
    split
    · exact ih.trans (List.suffix_cons c rest)
    · exact List.suffix_refl _

theorem length_skipFiller (t : Text) : (skipFiller t).length ≤ t.length :=
  (skipFiller_suffix t).length_le

/-- A value without quotes and what follows it. -/
def bareValue (t : Text) : Text × Text :=
  (t.takeWhile isBareChar, t.dropWhile isBareChar)

/-- The value behind an attribute's name, and what follows it. A quote that is not closed opens no
value: after blanks it begins the next attribute, after two equality signs the second sign begins
a value without quotes. -/
def attributeValue? (t : Text) : Option (Text × Text) :=
  let fromSigns := t.trimStart
  let signs := fromSigns.takeWhile (· == '=')
  let behindSigns := fromSigns.dropWhile (· == '=')
  let value := Text.trimStart behindSigns
  if signs.isEmpty then none
  else
    match value with
    | [] => some ([], [])
    | quote :: inside =>
      if isQuote quote then
        match Text.cut? quote inside with
        | some parts => some parts
        | none =>
          if value.length < behindSigns.length then some ([], value)
          else if 2 ≤ signs.length then some (bareValue ('=' :: value))
          else none
      else some (bareValue value)

/-- The last of the characters that are dropped stands before the others. -/
theorem cons_dropWhile_suffix {sep : Char} {t : Text}
    (h : (t.takeWhile (· == sep)).isEmpty = false) : sep :: t.dropWhile (· == sep) <:+ t := by
  have hne : t.takeWhile (· == sep) ≠ [] := by simpa using h
  have hlast : (t.takeWhile (· == sep)).getLast hne = sep := by
    have hall := List.all_eq_true.1 (List.all_takeWhile (p := (· == sep)) (l := t))
    simpa using hall _ (List.getLast_mem hne)
  have hsplit := List.takeWhile_append_dropWhile (p := (· == sep)) (l := t)
  rw [← List.dropLast_concat_getLast hne, hlast, List.append_assoc,
    List.singleton_append] at hsplit
  exact ⟨_, hsplit⟩

/-- A value and what follows it stand in the text one behind the other, with a closing quote
between them or not. -/
theorem exists_of_attributeValue? {t value rest : Text}
    (h : attributeValue? t = some (value, rest)) :
    ∃ quote : Text, value ++ quote ++ rest <:+ t := by
  have hstart : t.trimStart <:+ t := List.dropWhile_suffix isBlank
  have hsigns : t.trimStart.dropWhile (· == '=') <:+ t :=
    (List.dropWhile_suffix _).trans hstart
  have hblanks : Text.trimStart (t.trimStart.dropWhile (· == '='))
      <:+ t.trimStart.dropWhile (· == '=') := List.dropWhile_suffix isBlank
  unfold attributeValue? at h
  dsimp only at h
  split at h
  · cases h
  · rename_i hsome
    split at h
    · cases h
      exact ⟨[], List.nil_suffix⟩
    · rename_i quote inside heq
      rw [heq] at h hblanks
      split at h
      · split at h
        · rename_i parts hcut
          obtain rfl := Option.some.inj h
          refine ⟨[quote], ?_⟩
          rw [List.append_assoc, List.singleton_append, ← Text.eq_of_cut? hcut]
          exact (List.suffix_cons quote inside).trans (hblanks.trans hsigns)
        · split at h
          · cases h
            exact ⟨[], hblanks.trans hsigns⟩
          · rename_i hlength
            split at h
            · -- no blanks stand behind the signs, so the last sign does stand before the quote
              have hvalue := hblanks.eq_of_length_le (Nat.not_lt.1 hlength)
              have hsign := cons_dropWhile_suffix (Bool.eq_false_iff.2 hsome)
              rw [← hvalue] at hsign
              cases h
              refine ⟨[], ?_⟩
              rw [List.append_nil, List.takeWhile_append_dropWhile]
              exact hsign.trans hstart
            · cases h
      · cases h
        refine ⟨[], ?_⟩
        rw [List.append_nil, List.takeWhile_append_dropWhile]
        exact hblanks.trans hsigns

theorem length_attributeValue? {t value rest : Text}
    (h : attributeValue? t = some (value, rest)) : rest.length ≤ t.length := by
  obtain ⟨quote, hsuffix⟩ := exists_of_attributeValue? h
  exact ((List.suffix_append _ rest).trans hsuffix).length_le

/-- The rest of a start tag. -/
inductive TagEnd where
  /-- The tag ends before `rest`; `values` are the values of its attributes. -/
  | closed (values : List Text) (selfClosing : Bool) (rest : Text)
  /-- The text ends within the tag. -/
  | unfinished
  /-- The tag breaks off before `rest`. -/
  | broken (rest : Text)
deriving DecidableEq, Repr

namespace TagEnd

/-- The same end with one more attribute before it. -/
def withValue (value : Text) : TagEnd → TagEnd
  | .closed values selfClosing rest => .closed (value :: values) selfClosing rest
  | other => other

def rest? : TagEnd → Option Text
  | .closed _ _ rest => some rest
  | .unfinished => none
  | .broken rest => some rest

@[simp] theorem rest?_withValue (value : Text) (e : TagEnd) :
    (e.withValue value).rest? = e.rest? := by
  cases e <;> rfl

end TagEnd

/-- Whether an attribute may begin behind a name and the filler that `behindName` starts with: only
a quote, a blank or a slash may stand before it. -/
def opensAttribute (name behindName : Text) : Bool :=
  decide ((skipFiller behindName).length < behindName.length)
    || (name.getLast?.map isQuote).getD false

set_option linter.unusedVariables false in
/-- Reads the attributes of a start tag and finds its end. `gap` tells whether an attribute may
begin here. -/
def readTagEnd (gap : Bool) (t : Text) : TagEnd :=
  match t with
  | [] => .unfinished
  | c :: rest =>
    if c == '>' then .closed [] false rest
    else if c == '/' && rest.head? == some '>' then .closed [] true rest.tail
    else if gap then
      match hv : attributeValue? (rest.dropWhile isAttributeChar) with
      | some (value, behindValue) => (readTagEnd true (skipFiller behindValue)).withValue value
      | none =>
        readTagEnd
          (opensAttribute (c :: rest.takeWhile isAttributeChar) (rest.dropWhile isAttributeChar))
          (skipFiller (rest.dropWhile isAttributeChar))
    else if c.isAlpha || c == '=' || c == '/' then .unfinished
    else .broken t
termination_by t.length
decreasing_by
  · have h1 := length_skipFiller behindValue
    have h2 := length_attributeValue? hv
    have h3 := length_dropWhile_le isAttributeChar rest
    simp only [List.length_cons]
    omega
  · have h1 := length_skipFiller (rest.dropWhile isAttributeChar)
    have h3 := length_dropWhile_le isAttributeChar rest
    simp only [List.length_cons]
    omega

/-- What follows a start tag is the end of the text. -/
theorem suffix_of_readTagEnd {gap : Bool} {t rest : Text}
    (h : (readTagEnd gap t).rest? = some rest) : rest <:+ t := by
  fun_induction readTagEnd gap t with
  | case1 => cases h
  | case2 gap c tail _ =>
    obtain rfl := Option.some.inj h
    exact List.suffix_cons c _
  | case3 gap c tail _ _ =>
    obtain rfl := Option.some.inj h
    exact (List.tail_suffix tail).trans (List.suffix_cons c tail)
  | case4 c tail _ _ value behindValue hv ih =>
    rw [TagEnd.rest?_withValue] at h
    obtain ⟨quote, hvalue⟩ := exists_of_attributeValue? hv
    have hbehind : behindValue <:+ tail.dropWhile isAttributeChar :=
      (List.suffix_append _ behindValue).trans hvalue
    have hname : tail.dropWhile isAttributeChar <:+ tail := List.dropWhile_suffix _
    exact (ih h).trans ((skipFiller_suffix behindValue).trans
      (hbehind.trans (hname.trans (List.suffix_cons c tail))))
  | case5 c tail _ _ hv ih =>
    have hname : tail.dropWhile isAttributeChar <:+ tail := List.dropWhile_suffix _
    exact (ih h).trans ((skipFiller_suffix _).trans (hname.trans (List.suffix_cons c tail)))
  | case6 => cases h
  | case7 =>
    obtain rfl := Option.some.inj h
    exact List.suffix_refl _

/-- The name of the element that a tag starts; `t` is what follows the opening bracket. -/
def tagName (t : Text) : Text :=
  t.takeWhile fun c => !endsTagName c

/-- The rest of the start tag whose name `t` begins with. -/
def startTagEnd (t : Text) : TagEnd :=
  let behindName := t.dropWhile fun c => !endsTagName c
  readTagEnd (opensAttribute (tagName t) behindName) (skipFiller behindName)

theorem suffix_of_startTagEnd {t rest : Text} (h : (startTagEnd t).rest? = some rest) :
    rest <:+ t :=
  (suffix_of_readTagEnd h).trans ((skipFiller_suffix _).trans (List.dropWhile_suffix _))

theorem length_rest_startTagEnd {t rest : Text} (h : (startTagEnd t).rest? = some rest) :
    rest.length ≤ t.length :=
  (suffix_of_startTagEnd h).length_le

/-- The digits of the first decimal reference in a value that has too many. -/
def oversizedReference? : Text → Option TooManyDigits
  | [] => none
  | c :: rest =>
    let digits := match rest with
      | '#' :: number => number.takeWhile isAsciiDigit
      | _ => []
    if c == '&' && decide (digitLimit < digits.length) then some ⟨digits.length⟩
    else oversizedReference? rest

/-! ## End tags -/

def isEndTagChar (c : Char) : Bool :=
  c.isAlphanum || c == '-' || c == '.' || c == ':' || c == '_'

/-- What an end tag ends, from what stands between `</` and `>`. -/
inductive EndTag where
  /-- The element of this name. -/
  | element (name : Text)
  /-- Nothing: the tag is empty. -/
  | empty
  /-- Nothing: this is a comment. -/
  | comment
deriving DecidableEq, Repr

/-- Reads the inside of an end tag. Blanks may surround the name; else the inside must begin with
a letter, and what follows the name is passed over. -/
def readEndTag (inside : Text) : EndTag :=
  let body := inside.trimStart
  let behindName := Text.allBlank (body.dropWhile isEndTagChar)
  if (body.head?.map Char.isAlpha).getD false && behindName then
    .element (Text.lower (body.takeWhile isEndTagChar))
  else
    match inside with
    | [] => .empty
    | c :: _ => if c.isAlpha then .element (Text.lower (tagName inside)) else .comment

end LeadScreen.Markup
