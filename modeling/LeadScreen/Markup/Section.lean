import LeadScreen.Markup.Tag
import LeadScreen.Markup.Token

set_option autoImplicit false

/-!
# Comments and marked sections

A comment ends at two hyphens and a closing bracket. A marked section, `<![`, opens with a keyword:
one of the five of the standard, closed by `]]>`, or one of the three that word processors write,
closed by `]>`. Blanks may stand between the characters that close them.
-/

namespace LeadScreen.Markup

/-- What follows the given characters, blanks allowed before each but the first. -/
def afterSpaced? : Text → Text → Option Text
  | [], t => some t
  | c :: marks, t =>
    match Text.trimStart t with
    | [] => none
    | d :: rest => if c = d then afterSpaced? marks rest else none

theorem suffix_of_afterSpaced? {marks t rest : Text} (h : afterSpaced? marks t = some rest) :
    rest <:+ t := by
  induction marks generalizing t with
  | nil =>
    obtain rfl := Option.some.inj h
    exact List.suffix_refl _
  | cons c marks ih =>
    rw [afterSpaced?] at h
    have ht : t.trimStart <:+ t := List.dropWhile_suffix isBlank
    split at h
    · cases h
    · rename_i d tail heq
      rw [heq] at ht
      split at h
      · exact (ih h).trans ((List.suffix_cons d tail).trans ht)
      · cases h

/-- The text before the first place where `head` and then, spaced, `marks` stand, and the text
behind them. -/
def cutAtClose? (head marks : Text) : Text → Option (Text × Text)
  | [] => none
  | c :: rest =>
    match (Text.afterPrefix? head (c :: rest)).bind (afterSpaced? marks) with
    | some behind => some ([], behind)
    | none => (cutAtClose? head marks rest).map fun parts => (c :: parts.1, parts.2)

theorem suffix_of_cutAtClose? {head marks t before behind : Text}
    (h : cutAtClose? head marks t = some (before, behind)) : behind <:+ t := by
  induction t generalizing before with
  | nil => cases h
  | cons c rest ih =>
    rw [cutAtClose?] at h
    split at h
    · rename_i found hfound
      cases h
      obtain ⟨inside, hinside, hfound⟩ := Option.bind_eq_some_iff.1 hfound
      have hhead : inside <:+ c :: rest := ⟨head, (Text.eq_of_afterPrefix? hinside).symm⟩
      exact (suffix_of_afterSpaced? hfound).trans hhead
    · obtain ⟨⟨b, a⟩, hb, hparts⟩ := Option.map_eq_some_iff.1 h
      obtain ⟨rfl, rfl⟩ := Prod.mk.inj hparts
      exact (ih hb).trans (List.suffix_cons c rest)

theorem length_cutAtClose? {head marks t before behind : Text}
    (h : cutAtClose? head marks t = some (before, behind)) : behind.length ≤ t.length :=
  (suffix_of_cutAtClose? h).length_le

/-- The text of a comment and what follows it; `t` is what follows `<!--`. -/
def cutComment? (t : Text) : Option (Text × Text) :=
  cutAtClose? "--" ">" t

def isKeywordChar (c : Char) : Bool :=
  c.isAlphanum || c == '-' || c == '_' || c == '.'

/-- The keywords of sections that `]]>` closes. -/
def standardKeywords : List Text :=
  ["temp", "cdata", "ignore", "include", "rcdata"]

/-- The keywords of sections that `]>` closes. -/
def conditionKeywords : List Text :=
  ["if", "else", "endif"]

/-- The token of a marked section: character data if the keyword says so and its bracket follows at
once, else nothing visible. -/
def sectionToken (content : Text) : Token :=
  match Text.afterWord? "cdata[" content with
  | some data => .cdata data
  | none => .hidden content

/-- Reads a marked section; `t` is what follows `<![`. The answer is nothing when the text ends
within the section. -/
def readSection (t : Text) : Except Error (Option (Token × Text)) :=
  match t with
  | [] => .ok none
  | first :: tail =>
    if first.isAlpha then
      let name := first :: tail.takeWhile isKeywordChar
      let blanks := (tail.dropWhile isKeywordChar).takeWhile isBlank
      let keyword := Text.lower name
      if (Text.trimStart (tail.dropWhile isKeywordChar)).isEmpty then .ok none
      else if standardKeywords.elem keyword then
        .ok ((cutAtClose? "]" "]>" t).map fun parts => (sectionToken parts.1, parts.2))
      else if conditionKeywords.elem keyword then
        .ok ((cutAtClose? "]" ">" t).map fun parts => (sectionToken parts.1, parts.2))
      else .error (.unknownSection (name ++ blanks))
    else .error (.nameExpected (("<![".toList ++ t).take 20))

/-- What follows a marked section is the end of the text. -/
theorem suffix_of_readSection {t rest : Text} {token : Token}
    (h : readSection t = .ok (some (token, rest))) : rest <:+ t := by
  have hclose : ∀ {marks}, ((cutAtClose? "]" marks t).map
      fun parts => (sectionToken parts.1, parts.2)) = some (token, rest) → rest <:+ t :=
    fun hmap => by
    obtain ⟨⟨b, a⟩, hb, hparts⟩ := Option.map_eq_some_iff.1 hmap
    obtain ⟨-, rfl⟩ := Prod.mk.inj hparts
    exact suffix_of_cutAtClose? hb
  unfold readSection at h
  split at h
  · cases h
  · split at h
    · dsimp only at h
      split at h
      · cases h
      · split at h
        · exact hclose (Except.ok.inj h)
        · split at h
          · exact hclose (Except.ok.inj h)
          · cases h
    · cases h

theorem length_readSection {t rest : Text} {token : Token}
    (h : readSection t = .ok (some (token, rest))) : rest.length ≤ t.length :=
  (suffix_of_readSection h).length_le

end LeadScreen.Markup
