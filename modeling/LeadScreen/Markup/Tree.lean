import LeadScreen.Markup.Forest
import LeadScreen.Markup.Scan

set_option autoImplicit false

/-!
# From tokens to a forest

No element ends but by its end tag or that of an element around it: there are no implied ends. An
end tag without an open element of its name has no effect. Void elements end where they start; one
later end tag of the same name is passed over for each.

A string without a visible character is shortened to one line feed, if it holds any, or else to one
space, unless it stands in preformatted text.
-/

namespace LeadScreen.Markup

/-- The elements that never hold anything. -/
def voidElements : List Text :=
  ["area", "base", "br", "col", "embed", "hr", "img", "input", "keygen", "link", "menuitem",
   "meta", "param", "source", "track", "wbr", "basefont", "bgsound", "command", "frame", "image",
   "isindex", "nextid", "spacer"]

/-- The elements whose blanks stay as they are. -/
def preformattedElements : List Text :=
  ["pre", "textarea"]

def isAsciiBlank (c : Char) : Bool :=
  c == ' ' || c == '\n' || c == '\t' || c == '\x0C' || c == '\r'

def shortenBlanks (t : Text) : Text :=
  if t.all isAsciiBlank then (if t.elem '\n' then ['\n'] else [' ']) else t

/-- An open element and what it holds so far. -/
structure Frame where
  name : Text
  inside : Forest
deriving DecidableEq, Repr

structure Builder where
  /-- The open elements, innermost first. -/
  frames : List Frame := []
  /-- What stands before the outermost open element. -/
  done : Forest := .nil
  /-- The text since the last tag. -/
  pending : Text := []
  /-- The void elements whose end tag would be passed over. -/
  endedVoids : List Text := []
deriving DecidableEq, Repr

namespace Builder

def add (b : Builder) (piece : Forest) : Builder :=
  match b.frames with
  | [] => { b with done := b.done ++ piece }
  | frame :: frames => { b with frames := { frame with inside := frame.inside ++ piece } :: frames }

def kind (b : Builder) : Kind :=
  match b.frames.find? fun frame => apartElements.elem frame.name with
  | some frame => .within frame.name
  | none => .plain

def kept (b : Builder) (content : Text) : Text :=
  if b.frames.any fun frame => preformattedElements.elem frame.name then content
  else shortenBlanks content

def flush (b : Builder) : Builder :=
  if b.pending.isEmpty then b
  else { b.add (.text b.kind (b.kept b.pending) .nil) with pending := [] }

def addString (b : Builder) (kind : Kind) (content : Text) : Builder :=
  b.flush.add (.text kind (b.flush.kept content) .nil)

def openElement (b : Builder) (name : Text) : Builder :=
  { b.flush with frames := ⟨name, .nil⟩ :: b.flush.frames }

def pop (b : Builder) : Builder :=
  match b.frames with
  | [] => b
  | frame :: frames =>
    ({ b with frames := frames } : Builder).add (.element frame.name frame.inside .nil)

/-- Ends the innermost open element of a name and all elements within it. -/
def closeElement (b : Builder) (name : Text) : Builder :=
  match b.flush.frames.findIdx? fun frame => frame.name == name with
  | none => b.flush
  | some depth => Nat.repeat pop (depth + 1) b.flush

def endTag (b : Builder) (name : Text) : Builder :=
  if b.endedVoids.elem name then { b with endedVoids := b.endedVoids.erase name }
  else b.closeElement name

def take (b : Builder) : Token → Builder
  | .text content => { b with pending := b.pending ++ content }
  | .startTag name true => (b.openElement name).pop
  | .startTag name false =>
    if voidElements.elem name then
      { (b.openElement name).pop with endedVoids := name :: b.endedVoids }
    else b.openElement name
  | .endTag name => b.endTag name
  | .cdata content => b.addString .cdata content
  | .hidden content => b.addString .hidden content

def finish (b : Builder) : Forest :=
  (Nat.repeat pop b.flush.frames.length b.flush).done

end Builder

namespace Forest

def ofTokens (tokens : List Token) : Forest :=
  (tokens.foldl Builder.take {}).finish

def read (t : Text) : Except Error Forest :=
  (tokens t).map ofTokens

end Forest

end LeadScreen.Markup
