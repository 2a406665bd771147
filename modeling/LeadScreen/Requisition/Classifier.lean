import LeadScreen.Requisition.Terms
import LeadScreen.Text.Digit

set_option autoImplicit false

/-!
# The classifier of comment nodes

Nodes are sorted one by one. Where the classifier stands is a section and, after a key without a
value, that key: the next node is its value, unless it is blank. What a node does to the comments
follows from the node and from where the classifier stands; the comments themselves are never
consulted.
-/

namespace LeadScreen

/-- The key of the lines that are no keyed values. -/
def linesKey : Text := "lines"

def valuesFor (key text : Text) : List Text :=
  if isMultiValued key then text.commaValues else [text.trim]

/-- The text behind a number in front of a line, as in `2) Titles:`. -/
def dropNumbering (t : Text) : Text :=
  let body := t.trimStart
  match body.dropWhile isDigit with
  | ')' :: rest => if (body.takeWhile isDigit).isEmpty then t else Text.trimStart rest
  | _ => t

namespace Classifier

structure Position where
  /-- The section that lines belong to. -/
  current : Section := .root
  /-- The key that waits for its value. -/
  pending : Option Text := none
deriving DecidableEq, Repr

/-- What a node does to the comments. -/
inductive Effect where
  /-- Nothing. -/
  | none
  /-- It opens a section. -/
  | openSection (s : Section)
  /-- It adds values under a section and a key. -/
  | push (s : Section) (key : Text) (values : List Text)
deriving DecidableEq, Repr

def Effect.apply (c : Comments) : Effect → Comments
  | .none => c
  | .openSection s => c.openSection s
  | .push s key values => c.push s key values

/-- A key with the text behind it: a value, or none yet. -/
def stepKeyed (p : Position) (key value : Text) : Position × Effect :=
  if key.isEmpty then (p, .none)
  else if value.allBlank then ({ p with pending := some key }, .openSection p.current)
  else ({ p with pending := none }, .push p.current key (valuesFor key value))

/-- A line while no key waits for a value. -/
def stepLine (p : Position) (line : Text) : Position × Effect :=
  match splitAtColon? line with
  | none => (p, .push p.current linesKey [line])
  | some (before, value) =>
    let key := before.key
    if key.isEmpty then (p, .push p.current linesKey [line])
    else if key = Section.customIndustries.name then
      if value.isEmpty then (⟨.customIndustries, none⟩, .openSection .customIndustries)
      else stepKeyed ⟨.customIndustries, none⟩ key value
    else
      match Section.ofHeader? key with
      | some s =>
        if value.isEmpty then (⟨s, none⟩, .openSection s) else stepKeyed p key value
      | none => stepKeyed p key value

def step (p : Position) (node : Text) : Position × Effect :=
  if node.allBlank then ({ p with pending := none }, .none)
  else
    match p.pending with
    | some key => ({ p with pending := none }, .push p.current key (valuesFor key node))
    | none => stepLine p (dropNumbering node).trim

end Classifier

/-- The classifier: where it stands and what it has gathered. -/
structure Classifier where
  position : Classifier.Position := {}
  comments : Comments := []
deriving DecidableEq, Repr

namespace Classifier

def move (c : Classifier) (outcome : Position × Effect) : Classifier :=
  ⟨outcome.1, outcome.2.apply c.comments⟩

def feed (c : Classifier) (node : Text) : Classifier :=
  c.move (step c.position node)

/-- Takes up a key and the text behind it. -/
def addKeyed (c : Classifier) (key value : Text) : Classifier :=
  c.move (stepKeyed c.position key.key value)

def run (c : Classifier) (nodes : List Text) : Classifier :=
  nodes.foldl feed c

def classify (nodes : List Text) : Comments :=
  (run {} nodes).comments

end Classifier

end LeadScreen
