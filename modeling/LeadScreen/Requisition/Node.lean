import LeadScreen.Markup.Tree
import LeadScreen.Text.Blank
import LeadScreen.Text.Lines

set_option autoImplicit false

/-!
# The nodes of the comments

The comments are markup. Where it has paragraphs or divisions, each of these blocks is a node, and
so is text between blocks that is not blank; an innermost block is a node even when it is blank.
Markup without blocks is read line by line, a break tag ending a line like a line feed.
-/

namespace LeadScreen

def isBlockName (name : Text) : Bool :=
  name == "p".toList || name == "div".toList

namespace Markup.Forest

/-- Whether an element is a block or has one inside. -/
def containsBlock (name : Text) (inside : Forest) : Bool :=
  isBlockName name || inside.hasElement isBlockName

/-- Whether a string between the blocks is shown. -/
def isShown : Kind → Bool
  | .plain => true
  | .within _ => true
  | .cdata => false
  | .hidden => false

/-- The texts of the blocks of a forest and of what stands between them. `gathered` is the text
since the last block; `block` tells whether the forest is the inside of a block, `nested` whether a
block was met in it. -/
def blockTexts (block nested : Bool) (gathered : Text) : Forest → List Text
  | .nil => if (block && !nested) || !gathered.allBlank then [gathered] else []
  | .text kind content next =>
    blockTexts block nested (if isShown kind then gathered ++ content else gathered) next
  | .element name inside next =>
    if containsBlock name inside then
      (if gathered.allBlank then [] else [gathered])
        ++ blockTexts (isBlockName name) false [] inside
        ++ blockTexts block true [] next
    else blockTexts block nested (gathered ++ elementText name inside) next

def plainLines (f : Forest) : List Text :=
  (f.replaceElements "br" ['\n']).runningText.lines

/-- The texts of the nodes as they stand in the markup. -/
def rawNodes (f : Forest) : List Text :=
  if f.hasElement isBlockName then blockTexts false false [] f else f.plainLines

end Markup.Forest

/-- A node's text as it is read: no-break spaces are spaces, and the text is trimmed. -/
def cleanNode (t : Text) : Text :=
  Text.trim (t.map fun c => if c = '\u00A0' then ' ' else c)

def nodesOf (f : Markup.Forest) : List Text :=
  f.rawNodes.map cleanNode

def commentNodes (t : Text) : Except Markup.Error (List Text) :=
  (Markup.Forest.read t).map nodesOf

end LeadScreen
