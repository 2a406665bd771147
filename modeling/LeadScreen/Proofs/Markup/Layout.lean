import LeadScreen.Markup.Tree
import LeadScreen.Proofs.Markup.Written
import LeadScreen.Proofs.Text.Lines

set_option autoImplicit false

/-! # Lines in markup

Lines without markup of their own can be set as paragraphs (`paragraphs`), or one behind the other
with break tags between them (`broken`). Either way the forest is read off the lines: an element
for each paragraph (`read_paragraphs`), strings and breaks in turn (`read_broken`), and of a string
of blanks one is left (`keptText`).
-/

namespace LeadScreen.Markup

variable {line t : Text} {ls : List Text} {f : Forest}

/-- **A text without markup.** -/
def Unmarked (t : Text) : Prop :=
  '<' ∉ t ∧ '&' ∉ t

/-- Nothing opens a construct in a text without markup. -/
theorem Unmarked.plain (h : Unmarked t) : ∀ c ∈ t, opensConstruct c = false := by
  intro c hc
  have hbracket : c ≠ '<' := fun heq => h.1 (heq ▸ hc)
  have hamp : c ≠ '&' := fun heq => h.2 (heq ▸ hc)
  rw [opensConstruct, Bool.or_eq_false_iff, beq_eq_false_iff_ne, beq_eq_false_iff_ne]
  exact ⟨hamp, hbracket⟩

theorem Unmarked.append {a b : Text} (ha : Unmarked a) (hb : Unmarked b) : Unmarked (a ++ b) := by
  constructor
  · intro hmem
    exact (List.mem_append.mp hmem).elim ha.1 hb.1
  · intro hmem
    exact (List.mem_append.mp hmem).elim ha.2 hb.2

/-! ## Strings -/

/-- The tokens of a text without markup: itself, if there is anything in it. -/
def textTokens (t : Text) : List Token :=
  if t.isEmpty then [] else [.text t]

/-- A text without markup as it is kept. -/
def keptText (t : Text) : Text :=
  if t.isEmpty then [] else shortenBlanks t

def textForest (t : Text) : Forest :=
  if t.isEmpty then .nil else .text .plain (shortenBlanks t) .nil

theorem Written.textTokens_append {ts : List Token} {rest : Text} (hline : Unmarked line)
    (hrest : ∀ c ∈ rest.head?, opensConstruct c = true) (h : Written ts rest) :
    Written (textTokens line ++ ts) (line ++ rest) := by
  cases line with
  | nil => exact h
  | cons c line => exact .text (List.cons_ne_nil c line) hline.plain hrest h

theorem runningText_textForest (t : Text) : (textForest t).runningText = keptText t := by
  cases t with
  | nil => rfl
  | cons c t => exact List.append_nil _

/-! ## Paragraphs -/

/-- **Lines as paragraphs.** -/
def paragraphs (ls : List Text) : Text :=
  ls.flatMap fun line => "<p>".toList ++ line ++ "</p>".toList

def paragraphForest : List Text → Forest
  | [] => .nil
  | line :: ls => .element "p" (textForest line) (paragraphForest ls)

def paragraphTokens (line : Text) : List Token :=
  .startTag "p" false :: (textTokens line ++ [.endTag "p"])

theorem simpleName_p : SimpleName "p".toList :=
  ⟨⟨'p', rfl, rfl⟩, List.all_eq_true.mp rfl⟩

theorem written_paragraphs (h : ∀ line ∈ ls, Unmarked line) :
    Written (ls.flatMap paragraphTokens) (paragraphs ls) := by
  induction ls with
  | nil => exact .nil
  | cons line ls ih =>
      have hls := ih fun l hl => h l (List.mem_cons_of_mem line hl)
      have hend := Written.endTag simpleName_p hls
      have hline := Written.textTokens_append (h line List.mem_cons_self) (fun c hc => by
        obtain rfl := Option.some.inj hc
        rfl) hend
      have hstart := Written.startTag simpleName_p (by decide) hline
      simpa [paragraphs, paragraphTokens, List.flatMap_cons, List.append_assoc] using hstart

/-- A paragraph is put behind what stands before it, and nothing is left open. -/
theorem foldl_take_paragraphTokens (line : Text) :
    (paragraphTokens line).foldl Builder.take ⟨[], f, [], []⟩
      = ⟨[], f ++ .element "p" (textForest line) .nil, [], []⟩ := by
  cases line with
  | nil => rfl
  | cons c line => rfl

theorem foldl_take_paragraphs (ls : List Text) :
    (ls.flatMap paragraphTokens).foldl Builder.take ⟨[], f, [], []⟩
      = ⟨[], f ++ paragraphForest ls, [], []⟩ := by
  induction ls generalizing f with
  | nil => rw [paragraphForest, Forest.append_nil]; rfl
  | cons line ls ih =>
      rw [List.flatMap_cons, List.foldl_append, foldl_take_paragraphTokens, ih,
        Forest.append_assoc]
      rfl

/-- **Paragraphs are read as one element each.** -/
theorem read_paragraphs (h : ∀ line ∈ ls, Unmarked line) :
    Forest.read (paragraphs ls) = .ok (paragraphForest ls) := by
  rw [Forest.read, tokens_of_written (written_paragraphs h)]
  show Except.ok (Builder.finish _) = _
  rw [foldl_take_paragraphs]
  rfl

/-! ## Broken lines -/

/-- **Lines with break tags between them.** -/
def broken (ls : List Text) : Text :=
  Text.joinWith "<br>" ls

def breakTag : Token := .startTag "br" false

def brokenTokens : List Text → List Token
  | [] => []
  | [line] => textTokens line
  | line :: next :: ls => textTokens line ++ breakTag :: brokenTokens (next :: ls)

def brokenForest : List Text → Forest
  | [] => .nil
  | [line] => textForest line
  | line :: next :: ls => textForest line ++ .element "br" .nil (brokenForest (next :: ls))

theorem simpleName_br : SimpleName "br".toList :=
  ⟨⟨'b', rfl, rfl⟩, List.all_eq_true.mp rfl⟩

theorem written_broken (h : ∀ line ∈ ls, Unmarked line) :
    Written (brokenTokens ls) (broken ls) := by
  induction ls with
  | nil => exact .nil
  | cons line ls ih =>
      have hline := h line List.mem_cons_self
      cases ls with
      | nil =>
          have hnone : ∀ c ∈ ([] : Text).head?, opensConstruct c = true := nofun
          have hend := Written.textTokens_append hline hnone .nil
          rw [List.append_nil, List.append_nil] at hend
          rw [broken, Text.joinWith_singleton]
          exact hend
      | cons next ls =>
          have hls := ih fun l hl => h l (List.mem_cons_of_mem line hl)
          have hbreak := Written.startTag simpleName_br (by decide) hls
          have hfront := Written.textTokens_append hline (fun c hc => by
            obtain rfl := Option.some.inj hc
            rfl) hbreak
          rw [broken, Text.joinWith_cons_cons]
          exact hfront

/-- A line and the break behind it are put behind what stands before them. -/
theorem foldl_take_break (line : Text) (voids : List Text) :
    (textTokens line ++ [breakTag]).foldl Builder.take ⟨[], f, [], voids⟩
      = ⟨[], f ++ (textForest line ++ .element "br" .nil .nil), [], "br".toList :: voids⟩ := by
  cases line with
  | nil => rfl
  | cons c line =>
      show (⟨[], f ++ _ ++ _, [], _⟩ : Builder) = _
      rw [Forest.append_assoc]
      rfl

theorem finish_take_broken (ls : List Text) (voids : List Text) :
    ((brokenTokens ls).foldl Builder.take ⟨[], f, [], voids⟩).finish = f ++ brokenForest ls := by
  induction ls generalizing f voids with
  | nil => exact (Forest.append_nil f).symm
  | cons line ls ih =>
      cases ls with
      | nil =>
          cases line with
          | nil => exact (Forest.append_nil f).symm
          | cons c line => rfl
      | cons next ls =>
          have hsplit : brokenTokens (line :: next :: ls)
              = (textTokens line ++ [breakTag]) ++ brokenTokens (next :: ls) := by
            rw [List.append_assoc]
            rfl
          rw [hsplit, List.foldl_append, foldl_take_break, ih, Forest.append_assoc,
            Forest.append_assoc]
          rfl

/-- **Broken lines are read as strings and breaks in turn.** -/
theorem read_broken (h : ∀ line ∈ ls, Unmarked line) :
    Forest.read (broken ls) = .ok (brokenForest ls) := by
  rw [Forest.read, tokens_of_written (written_broken h)]
  exact congrArg Except.ok (finish_take_broken ls [])

/-- A text without markup is read as one string. -/
theorem read_of_unmarked (h : Unmarked t) : Forest.read t = .ok (textForest t) := by
  have hall : ∀ line ∈ [t], Unmarked line := fun line hline => List.mem_singleton.mp hline ▸ h
  have hread := read_broken hall
  rwa [broken, Text.joinWith_singleton] at hread

/-! ## The text between the breaks -/

theorem replaceElements_append (name content : Text) (f g : Forest) :
    (f ++ g).replaceElements name content
      = f.replaceElements name content ++ g.replaceElements name content := by
  induction f with
  | nil => rfl
  | text kind string next ih => simp [Forest.replaceElements, ih]
  | element other inside next _ ih =>
      by_cases h : other = name <;> simp [Forest.replaceElements, h, ih]

theorem replaceElements_textForest (name content t : Text) :
    (textForest t).replaceElements name content = textForest t := by
  cases t <;> rfl

/-- With line feeds for the breaks, broken lines are joined lines. -/
theorem runningText_replaceElements_brokenForest (ls : List Text) :
    ((brokenForest ls).replaceElements "br" ['\n']).runningText
      = Text.joinWith ['\n'] (ls.map keptText) := by
  induction ls with
  | nil => rfl
  | cons line ls ih =>
      cases ls with
      | nil =>
          rw [List.map_singleton, Text.joinWith_singleton, brokenForest,
            replaceElements_textForest, runningText_textForest]
      | cons next ls =>
          rw [brokenForest, replaceElements_append, Forest.runningText, Forest.collect_append,
            replaceElements_textForest, ← Forest.runningText, runningText_textForest,
            List.map_cons, List.map_cons, Text.joinWith_cons_cons, ← List.map_cons, ← ih]
          rfl

theorem hasElement_brokenForest {p : Text → Bool} (hp : p "br" = false) (ls : List Text) :
    (brokenForest ls).hasElement p = false := by
  have htext : ∀ t, (textForest t).hasElement p = false := fun t => by cases t <;> rfl
  induction ls with
  | nil => rfl
  | cons line ls ih =>
      cases ls with
      | nil => exact htext line
      | cons next ls =>
          rw [brokenForest, Forest.hasElement_append, htext, Forest.hasElement, hp, ih]
          rfl

end LeadScreen.Markup
