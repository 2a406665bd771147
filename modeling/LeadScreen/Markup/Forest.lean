import LeadScreen.Text.Basic

set_option autoImplicit false

/-!
# Forests

Markup that is read is a forest: a sequence of strings and elements, where each element holds a
forest again. A string remembers where it comes from, because not every string is shown.
-/

namespace LeadScreen.Markup

inductive Kind where
  /-- Running text. -/
  | plain
  /-- A character data section. -/
  | cdata
  /-- A comment, a declaration or an instruction. -/
  | hidden
  /-- Text within an element that keeps its strings apart; `element` is the innermost one. -/
  | within (element : Text)
deriving DecidableEq, Repr

/-- The elements that keep their strings apart from the running text. -/
def apartElements : List Text :=
  ["script", "style", "template", "rt", "rp"]

/-- Strings and elements in document order. -/
inductive Forest where
  | nil
  /-- A string, then the rest. -/
  | text (kind : Kind) (content : Text) (next : Forest)
  /-- An element with what is inside it, then the rest. -/
  | element (name : Text) (inside : Forest) (next : Forest)
deriving DecidableEq, Repr

namespace Forest

/-! ## Putting forests together -/

def append : Forest → Forest → Forest
  | .nil, g => g
  | .text kind content next, g => .text kind content (append next g)
  | .element name inside next, g => .element name inside (append next g)

instance : Append Forest := ⟨append⟩

@[simp] theorem nil_append (g : Forest) : (.nil : Forest) ++ g = g := rfl

@[simp] theorem text_append (kind : Kind) (content : Text) (next g : Forest) :
    Forest.text kind content next ++ g = .text kind content (next ++ g) := rfl

@[simp] theorem element_append (name : Text) (inside next g : Forest) :
    Forest.element name inside next ++ g = .element name inside (next ++ g) := rfl

@[simp] theorem append_nil (f : Forest) : f ++ .nil = f := by
  induction f with
  | nil => rfl
  | text kind content next ih => rw [text_append, ih]
  | element name inside next _ ih => rw [element_append, ih]

theorem append_assoc (f g h : Forest) : f ++ g ++ h = f ++ (g ++ h) := by
  induction f with
  | nil => rfl
  | text kind content next ih => simp only [text_append, ih]
  | element name inside next _ ih => simp only [element_append, ih]

/-! ## The text of a forest -/

/-- The strings of the wanted kinds at any depth, in document order, as one text. -/
def collect (wanted : Kind → Bool) : Forest → Text
  | .nil => []
  | .text kind content next => (if wanted kind then content else []) ++ collect wanted next
  | .element _ inside next => collect wanted inside ++ collect wanted next

theorem collect_append (wanted : Kind → Bool) (f g : Forest) :
    collect wanted (f ++ g) = collect wanted f ++ collect wanted g := by
  induction f with
  | nil => rfl
  | text kind content next ih => simp [collect, ih]
  | element name inside next _ ih => simp [collect, ih]

def isRunning : Kind → Bool
  | .plain => true
  | .cdata => true
  | .hidden => false
  | .within _ => false

def runningText (f : Forest) : Text :=
  f.collect isRunning

/-- The text of an element: its running text, but that of an element which keeps its strings apart
is made of those strings alone. -/
def elementText (name : Text) (inside : Forest) : Text :=
  if apartElements.elem name then inside.collect (· == .within name) else inside.runningText

/-! ## Elements -/

/-- Whether an element that satisfies `p` stands anywhere in the forest. -/
def hasElement (p : Text → Bool) : Forest → Bool
  | .nil => false
  | .text _ _ next => hasElement p next
  | .element name inside next => p name || hasElement p inside || hasElement p next

theorem hasElement_append (p : Text → Bool) (f g : Forest) :
    hasElement p (f ++ g) = (hasElement p f || hasElement p g) := by
  induction f with
  | nil => rfl
  | text kind content next ih => simp [hasElement, ih]
  | element name inside next _ ih => simp [hasElement, ih, Bool.or_assoc]

/-- The forest with each outermost element of a name replaced by running text. -/
def replaceElements (name : Text) (content : Text) : Forest → Forest
  | .nil => .nil
  | .text kind string next => .text kind string (replaceElements name content next)
  | .element other inside next =>
    if other = name then .text .plain content (replaceElements name content next)
    else .element other (replaceElements name content inside) (replaceElements name content next)

end Forest

end LeadScreen.Markup
