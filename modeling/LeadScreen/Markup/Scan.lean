import LeadScreen.Markup.Section

set_option autoImplicit false

/-!
# Reading markup

`tokens` cuts a text into its tokens. It reads the text twice over: a first pass stops at a
construct that more text could complete, and a second pass goes on from there, knowing that the
text is complete. What the second pass stops at is text.

Within the raw content of an element nothing counts but the end tag of that element; raw content
without one is dropped.
-/

namespace LeadScreen.Markup

/-! ## One construct -/

/-- What reading one construct comes to. -/
inductive Step (t : Text) where
  /-- The construct is read; reading goes on at `rest`. -/
  | next (tokens : List Token) (rest : Text) (shorter : rest.length < t.length)
  /-- Reading stops, with `rest` left. -/
  | stop (tokens : List Token) (rest : Text)

/-- Reads an ampersand and what belongs to it; `t` is what follows the ampersand. Nothing that
looks like a reference but is not terminated is read: reading stops there. If a semicolon follows
somewhere, `&#` is taken as text first; at the very end an ampersand before a single letter is
lost. -/
def readAmpersand (final : Bool) (t : Text) : Except Error (Step ('&' :: t)) :=
  match t with
  | [] => .ok (.stop [] ['&'])
  | '#' :: number =>
    match hr : (readNumber number).rest? with
    | some rest => do
      let text ← (readNumber number).text
      return .next [.text text] rest (by
        have := length_rest_readNumber hr
        simp only [List.length_cons]
        omega)
    | none =>
      if number.elem ';' then .ok (.stop [.text "&#"] number)
      else .ok (.stop [] ('&' :: '#' :: number))
  | c :: tail =>
    match hr : (readName (c :: tail)).rest? with
    | some rest => do
      let text ← (readName (c :: tail)).text
      return .next [.text text] rest (by
        have := length_rest_readName hr
        simp only [List.length_cons] at *
        omega)
    | none =>
      if c.isAlpha then
        if final && tail.isEmpty then .ok (.stop [] (c :: tail))
        else .ok (.stop [] ('&' :: c :: tail))
      else .ok (.next [.text ['&']] (c :: tail) (by simp))

/-- Reads a construct that the text ends within; `t` is what follows its opening bracket. A first
pass stops there. A second pass takes the construct as text, up to a closing bracket or else to
the next opening one; if there is none, the bracket alone is text. -/
def readUnfinished (final : Bool) (t : Text) : Step ('<' :: t) :=
  if final then
    match hg : t.cut? '>' with
    | some (before, rest) =>
      .next [.text ('<' :: before ++ ['>'])] rest (Nat.lt_succ_of_lt (Text.length_of_cut? hg))
    | none =>
      if t.elem '<' then
        .next [.text ('<' :: t.takeWhile (· != '<'))] (t.dropWhile (· != '<'))
          (Nat.lt_succ_of_le (length_dropWhile_le _ t))
      else .next [.text ['<']] t (Nat.lt_succ_self _)
  else .stop [] ('<' :: t)

/-- Reads a start tag; `t` is what follows its opening bracket. A tag that breaks off is text. -/
def readStartTag (final : Bool) (t : Text) : Except Error (Step ('<' :: t)) :=
  match he : startTagEnd t with
  | .closed values selfClosing rest =>
    match values.findSome? oversizedReference? with
    | some number => .error (.oversizedReference number)
    | none =>
      .ok (.next [.startTag (Text.lower (tagName t)) selfClosing] rest (by
        have := @length_rest_startTagEnd t rest (by rw [he]; rfl)
        simp only [List.length_cons]
        omega))
  | .unfinished => .ok (readUnfinished final t)
  | .broken rest =>
    .ok (.next [.text ('<' :: t.take (t.length - rest.length))] rest (by
      have := @length_rest_startTagEnd t rest (by rw [he]; rfl)
      simp only [List.length_cons]
      omega))

/-- Reads an end tag; `t` is what follows `</`. -/
def readClosing (final : Bool) (t : Text) : Step ('<' :: '/' :: t) :=
  match hg : t.cut? '>' with
  | some (inside, rest) =>
    have shorter : rest.length < ('<' :: '/' :: t).length :=
      Nat.lt_succ_of_lt (Nat.lt_succ_of_lt (Text.length_of_cut? hg))
    match readEndTag inside with
    | .element name => .next [.endTag name] rest shorter
    | .empty => .next [] rest shorter
    | .comment => .next [.hidden inside] rest shorter
  | none => readUnfinished final ('/' :: t)

/-- Reads what `<?` opens, or `<!` if it is neither comment nor marked section: something hidden,
up to the next closing bracket. `t` is what follows the `mark`. -/
def readHidden (final : Bool) (mark : Char) (t : Text) : Step ('<' :: mark :: t) :=
  match hg : t.cut? '>' with
  | some (inside, rest) =>
    .next [.hidden inside] rest (by
      have := Text.length_of_cut? hg
      simp only [List.length_cons]
      omega)
  | none => readUnfinished final (mark :: t)

/-- Reads a comment; `t` is what follows `<!--`. -/
def readComment (final : Bool) (t : Text) : Step ('<' :: '!' :: '-' :: '-' :: t) :=
  match hc : cutComment? t with
  | some (inside, rest) =>
    .next [.hidden inside] rest (by
      have := length_cutAtClose? hc
      simp only [List.length_cons]
      omega)
  | none => readUnfinished final ('!' :: '-' :: '-' :: t)

/-- Reads a marked section; `t` is what follows `<![`. -/
def readMarked (final : Bool) (t : Text) : Except Error (Step ('<' :: '!' :: '[' :: t)) :=
  match hs : readSection t with
  | .error e => .error e
  | .ok (some (token, rest)) =>
    .ok (.next [token] rest (by
      have := length_readSection hs
      simp only [List.length_cons]
      omega))
  | .ok none => .ok (readUnfinished final ('!' :: '[' :: t))

/-- Reads what an opening bracket begins; `t` is what follows the bracket. A bracket before
anything but a letter, a slash, an exclamation or a question mark is text. -/
def readBracket (final : Bool) (t : Text) : Except Error (Step ('<' :: t)) :=
  match t with
  | [] => .ok (.stop [] ['<'])
  | '/' :: rest => .ok (readClosing final rest)
  | '!' :: '-' :: '-' :: rest => .ok (readComment final rest)
  | '!' :: '[' :: rest => readMarked final rest
  | '!' :: rest => .ok (readHidden final '!' rest)
  | '?' :: rest => .ok (readHidden final '?' rest)
  | c :: rest =>
    if c.isAlpha then readStartTag final (c :: rest)
    else .ok (.next [.text ['<']] (c :: rest) (by simp))

def opensConstruct (c : Char) : Bool :=
  c == '&' || c == '<'

/-- Reads one construct, or the text before the next one. -/
def readStep (final : Bool) (t : Text) : Except Error (Step t) :=
  match t with
  | [] => .ok (.stop [] [])
  | '&' :: rest => readAmpersand final rest
  | '<' :: rest => readBracket final rest
  | c :: rest =>
    .ok (.next [.text (c :: rest.takeWhile fun d => !opensConstruct d)]
      (rest.dropWhile fun d => !opensConstruct d) (by
        have := length_dropWhile_le (fun d => !opensConstruct d) rest
        simp only [List.length_cons]
        omega))

/-! ## Raw content -/

/-- The end tag of a raw element at the start of a text, case disregarded: its name as it is
written, and what follows the tag. -/
def rawEnd? (element : Text) (t : Text) : Option (Text × Text) :=
  match Text.afterPrefix? "</" t with
  | none => none
  | some inside =>
    let body := Text.trimStart inside
    match (Text.afterWord? element body).bind (afterSpaced? ">") with
    | none => none
    | some rest => some (body.take element.length, rest)

/-- The raw content before the end tag of its element, the name in that tag as it is written, and
what follows the tag. -/
def cutRaw? (element : Text) : Text → Option (Text × Text × Text)
  | [] => none
  | c :: rest =>
    match rawEnd? element (c :: rest) with
    | some (name, behind) => some ([], name, behind)
    | none => (cutRaw? element rest).map fun parts => (c :: parts.1, parts.2)

/-- What follows the end tag of a raw element is the end of the text. -/
theorem suffix_of_rawEnd? {element t name rest : Text} {c : Char}
    (h : rawEnd? element (c :: t) = some (name, rest)) : rest <:+ t := by
  unfold rawEnd? at h
  split at h
  · cases h
  · rename_i inside hinside
    dsimp only at h
    split at h
    · cases h
    · rename_i found hfound
      cases h
      obtain ⟨body, hbody, hfound⟩ := Option.bind_eq_some_iff.1 hfound
      have hopening : c :: t = '<' :: '/' :: inside := Text.eq_of_afterPrefix? hinside
      have hinner : inside <:+ t := ⟨['/'], (List.cons.inj hopening).2.symm⟩
      have hbody := (Text.suffix_of_afterWord? hbody).trans (List.dropWhile_suffix isBlank)
      exact (suffix_of_afterSpaced? hfound).trans (hbody.trans hinner)

/-- Raw content takes up at least a character, since its end tag does. -/
theorem suffix_of_cutRaw? {element t before name behind : Text} {c : Char}
    (h : cutRaw? element (c :: t) = some (before, name, behind)) : behind <:+ t := by
  induction t generalizing c before with
  | nil =>
    rw [cutRaw?] at h
    split at h
    · rename_i hraw
      cases h
      exact suffix_of_rawEnd? hraw
    · cases h
  | cons d rest ih =>
    rw [cutRaw?] at h
    split at h
    · rename_i hraw
      cases h
      exact suffix_of_rawEnd? hraw
    · obtain ⟨⟨b, n, a⟩, hb, hparts⟩ := Option.map_eq_some_iff.1 h
      cases hparts
      exact (ih hb).trans (List.suffix_cons d rest)

theorem length_cutRaw? {element t before name behind : Text}
    (h : cutRaw? element t = some (before, name, behind)) : behind.length < t.length := by
  cases t with
  | nil => cases h
  | cons c rest => exact Nat.lt_succ_of_le (suffix_of_cutRaw? h).length_le

/-! ## All tokens -/

/-- What a pass over the text has read: the tokens, the raw element it stopped in, if any, and what
is left. -/
structure Reading where
  tokens : List Token
  element : Option Text
  rest : Text

namespace Reading

def after (tokens : List Token) (r : Reading) : Reading :=
  { r with tokens := tokens ++ r.tokens }

end Reading

set_option linter.unusedVariables false in
/-- One pass over a text. An end tag of a raw element counts only if its name is written in ASCII;
otherwise it belongs to the content. -/
def readFrom (final : Bool) (element : Option Text) (t : Text) : Except Error Reading :=
  match element with
  | none =>
    match readStep final t with
    | .error e => .error e
    | .ok (.stop tokens rest) => .ok ⟨tokens, none, rest⟩
    | .ok (.next tokens rest _) => do
      let reading ← readFrom final (tokens.getLast?.bind Token.opensRaw?) rest
      return reading.after tokens
  | some name =>
    match hc : cutRaw? name t with
    | none => .ok ⟨[], some name, t⟩
    | some (before, written, behind) =>
      if written.all fun c => decide (c.toNat < 128) then do
        let reading ← readFrom final none behind
        return reading.after [.text before, .endTag name]
      else do
        let reading ← readFrom final (some name) behind
        return reading.after [.text (t.take (t.length - behind.length))]
termination_by t.length
decreasing_by
  · assumption
  · exact length_cutRaw? hc
  · exact length_cutRaw? hc

def tokens (t : Text) : Except Error (List Token) := do
  let first ← readFrom false none t
  let second ← readFrom true first.element first.rest
  let left := if second.element.isNone && !second.rest.isEmpty then [.text second.rest] else []
  return first.tokens ++ second.tokens ++ left

end LeadScreen.Markup
