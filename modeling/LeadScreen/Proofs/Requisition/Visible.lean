import LeadScreen.Proofs.Markup.Kinds
import LeadScreen.Proofs.Requisition.Cuts

set_option autoImplicit false

/-! # What is read of the markup, with blocks and without

Comments without blocks are read from the running text of the markup, comments with blocks from its
nodes. Which strings are read is settled in different places: the running text takes strings by
their kind, the nodes by their kind where blocks are, and by the element elsewhere. Here each string
is set down with both answers (`Forest.strings`). Strings that only the running text takes are
`lost` from the nodes, and those that only the nodes take are `added` to them. There are both:
character data beside blocks is lost, and what a style sheet says is added. `visible_nodesOf_iff`
makes up the account, for any markup with blocks: the nodes hold what is not blank in the running
text, less what is lost, and what is added.
-/

namespace LeadScreen

variable {t : Text} {c : Char}

/-! ## Visible characters -/

/-- The characters of a text that are not blank. -/
def visible (t : Text) : Text :=
  t.filter fun c => !isBlank c

theorem visible_append (a b : Text) : visible (a ++ b) = visible a ++ visible b :=
  List.filter_append a b

theorem visible_flatMap {α : Type} (f : α → Text) (l : List α) :
    visible (l.flatMap f) = l.flatMap fun x => visible (f x) :=
  List.filter_flatMap

theorem visible_eq_nil_iff : visible t = [] ↔ t.trim = [] := by
  rw [Text.trim_eq_nil_iff, visible, List.filter_eq_nil_iff, Text.allBlank, List.all_eq_true]
  simp

/-- Trimming takes blanks only. -/
theorem visible_trim (t : Text) : visible t.trim = visible t := by
  obtain ⟨front, back, hsplit, hfront, hback⟩ := Text.exists_stripWhere_eq isBlank t
  have hnone : ∀ a : Text, (∀ c ∈ a, isBlank c = true) → visible a = [] := fun a ha =>
    visible_eq_nil_iff.mpr (Text.trim_eq_nil_iff.mpr (List.all_eq_true.mpr ha))
  conv_rhs => rw [hsplit]
  rw [visible_append, visible_append, hnone front hfront, hnone back hback, List.nil_append,
    List.append_nil, Text.trim_eq_stripWhere]

theorem visible_map_spaced (t : Text) : visible (t.map spaced) = visible t := by
  induction t with
  | nil => rfl
  | cons c t ih =>
      rw [List.map_cons, visible, List.filter_cons, isBlank_spaced, visible, List.filter_cons,
        ← visible, ← visible, ih]
      cases hblank : isBlank c with
      | true => rfl
      | false =>
          have hsame : spaced c = c := if_neg fun h => by
            rw [h] at hblank
            exact absurd hblank (by decide)
          rw [hsame]

/-- A node holds the visible characters of its text. -/
theorem visible_cleanNode (t : Text) : visible (cleanNode t) = visible t := by
  rw [cleanNode_eq_trim, visible_trim, visible_map_spaced]

namespace Markup

open Forest

/-- A piece that is no node has nothing to show. -/
theorem visible_of_not_isNode {p : Piece} (h : ¬ p.isNode = true) : visible p.text = [] := by
  rw [isNode_iff, not_or, not_not] at h
  rw [← visible_cleanNode, h.2]
  rfl

/-- What the nodes among pieces show, all of the pieces show. -/
theorem flatMap_visible_pieces (ps : List Piece) :
    ((ps.filter Piece.isNode).map fun p => cleanNode p.text).flatMap visible
      = ps.flatMap fun p => visible p.text := by
  induction ps with
  | nil => rfl
  | cons p ps ih =>
      rw [List.flatMap_cons, ← ih]
      by_cases hnode : p.isNode = true
      · rw [List.filter_cons_of_pos hnode, List.map_cons, List.flatMap_cons, visible_cleanNode]
      · rw [List.filter_cons_of_neg hnode, visible_of_not_isNode hnode, List.nil_append]

/-- **The nodes hold what is visible of the cut text.** -/
theorem visible_flatten_nodesOf {f : Forest} (h : f.hasElement isBlockName = true) :
    visible (nodesOf f).flatten = visible f.cutText :=
  calc visible (nodesOf f).flatten
    _ = (nodesOf f).flatMap visible := by
        rw [visible, List.filter_flatten]
        rfl
    _ = f.pieces.flatMap fun p => visible p.text := by
        rw [nodesOf_eq_map f h, flatMap_visible_pieces]
    _ = visible f.cutText := by rw [← visible_flatMap, flatMap_text_pieces]

/-! ## Strings -/

/-- A string with the place where it stands: whether the cut text takes it there. -/
structure PlacedString where
  kind : Kind
  content : Text
  isCut : Bool
deriving DecidableEq, Repr

namespace PlacedString

/-- The string is in the running text, but in no node. -/
def isLost (s : PlacedString) : Bool :=
  !s.isCut && isRunning s.kind

/-- The string is in a node, but not in the running text. -/
def isAdded (s : PlacedString) : Bool :=
  s.isCut && !isRunning s.kind

end PlacedString

/-- The kinds of strings that are the text of an element. -/
def ownKinds (name : Text) (kind : Kind) : Bool :=
  if apartElements.elem name then kind == .within name else isRunning kind

namespace Forest

/-- The strings at any depth, with `taken` for those that are taken. -/
def stringsWithin (taken : Kind → Bool) : Forest → List PlacedString
  | .nil => []
  | .text kind content next => ⟨kind, content, taken kind⟩ :: stringsWithin taken next
  | .element _ inside next => stringsWithin taken inside ++ stringsWithin taken next

/-- **The strings of a forest**, in order. -/
def strings : Forest → List PlacedString
  | .nil => []
  | .text kind content next => ⟨kind, content, isShown kind⟩ :: strings next
  | .element name inside next =>
    (if containsBlock name inside then strings inside else stringsWithin (ownKinds name) inside)
      ++ strings next

def lost (f : Forest) : Text :=
  visible ((f.strings.filter PlacedString.isLost).flatMap PlacedString.content)

def added (f : Forest) : Text :=
  visible ((f.strings.filter PlacedString.isAdded).flatMap PlacedString.content)

theorem elementText_eq_collect (name : Text) (inside : Forest) :
    elementText name inside = inside.collect (ownKinds name) := by
  unfold elementText ownKinds
  split <;> rfl

theorem collect_eq_stringsWithin (taken : Kind → Bool) (f : Forest) :
    f.collect taken
      = ((stringsWithin taken f).filter PlacedString.isCut).flatMap PlacedString.content := by
  induction f with
  | nil => rfl
  | text kind content next ih =>
      rw [collect, ih, stringsWithin, List.filter_cons]
      cases taken kind <;> rfl
  | element name inside next ihinside ih =>
      rw [collect, ihinside, ih, stringsWithin, List.filter_append, List.flatMap_append]

theorem cutText_eq_strings (f : Forest) :
    f.cutText = (f.strings.filter PlacedString.isCut).flatMap PlacedString.content := by
  induction f with
  | nil => rfl
  | text kind content next ih =>
      rw [cutText, ih, strings, List.filter_cons]
      cases isShown kind <;> rfl
  | element name inside next ihinside ih =>
      rw [cutText, strings, List.filter_append, List.flatMap_append, ih]
      split
      · rw [ihinside]
      · rw [elementText_eq_collect, collect_eq_stringsWithin]

theorem runningText_eq_stringsWithin (taken : Kind → Bool) (f : Forest) :
    f.runningText
      = ((stringsWithin taken f).filter fun s => isRunning s.kind).flatMap PlacedString.content := by
  induction f with
  | nil => rfl
  | text kind content next ih =>
      rw [runningText, collect, ← runningText, ih, stringsWithin, List.filter_cons]
      cases isRunning kind <;> rfl
  | element name inside next ihinside ih =>
      rw [runningText, collect, ← runningText, ← runningText, ihinside, ih, stringsWithin,
        List.filter_append, List.flatMap_append]

theorem runningText_eq_strings (f : Forest) :
    f.runningText = (f.strings.filter fun s => isRunning s.kind).flatMap PlacedString.content := by
  induction f with
  | nil => rfl
  | text kind content next ih =>
      rw [runningText, collect, ← runningText, ih, strings, List.filter_cons]
      cases isRunning kind <;> rfl
  | element name inside next ihinside ih =>
      rw [runningText, collect, ← runningText, ← runningText, strings, List.filter_append,
        List.flatMap_append, ih]
      split
      · rw [ihinside]
      · rw [← runningText_eq_stringsWithin]

end Forest

/-! ## Where strings are lost and added -/

section Kinds

variable {f : Forest} {around : Option Text} {s : PlacedString}

/-- In an element that keeps its strings apart there is no running text but character data. -/
theorem kind_ne_plain_of_mem_stringsWithin {taken : Kind → Bool} (hf : f.Placed around)
    (haround : around ≠ none) (hs : s ∈ stringsWithin taken f) : s.kind ≠ .plain := by
  induction f generalizing around with
  | nil => exact absurd hs List.not_mem_nil
  | text kind content next ih =>
      rcases List.mem_cons.mp hs with rfl | hmem
      · intro hplain
        have hsuits : kind.Suits around := hf.1
        rw [show kind = .plain from hplain] at hsuits
        exact haround hsuits
      · exact ih hf.2 haround hmem
  | element name inside next ihinside ih =>
      rcases List.mem_append.mp hs with hmem | hmem
      · refine ihinside hf.1 ?_ hmem
        unfold apartIn
        split
        · exact Option.some_ne_none name
        · exact haround
      · exact ih hf.2 haround hmem

theorem isCut_of_mem_stringsWithin {taken : Kind → Bool} (hs : s ∈ stringsWithin taken f) :
    s.isCut = taken s.kind := by
  induction f with
  | nil => exact absurd hs List.not_mem_nil
  | text kind content next ih =>
      rcases List.mem_cons.mp hs with rfl | hmem
      · rfl
      · exact ih hmem
  | element name inside next ihinside ih =>
      exact (List.mem_append.mp hs).elim ihinside ih

/-- Of an element without blocks only character data is lost, and only if the element keeps its
strings apart. -/
theorem kind_of_isLost_within {name : Text} (hf : f.Placed (apartIn around name))
    (hs : s ∈ stringsWithin (ownKinds name) f) (hlost : s.isLost = true) : s.kind = .cdata := by
  rw [PlacedString.isLost, isCut_of_mem_stringsWithin hs, ownKinds, Bool.and_eq_true,
    Bool.not_eq_true'] at hlost
  obtain ⟨hnot, hrunning⟩ := hlost
  by_cases hapart : apartElements.elem name = true
  · have hinside : apartIn around name ≠ none := by
      rw [apartIn, if_pos hapart]
      exact Option.some_ne_none name
    have hne := kind_ne_plain_of_mem_stringsWithin hf hinside hs
    cases hkind : s.kind with
    | cdata => rfl
    | plain => exact absurd hkind hne
    | hidden => rw [hkind] at hrunning; cases hrunning
    | within name => rw [hkind] at hrunning; cases hrunning
  · rw [if_neg hapart, hrunning] at hnot
    cases hnot

/-- Of an element without blocks only its own strings are added, if it keeps them apart. -/
theorem kind_of_isAdded_within {name : Text} (hs : s ∈ stringsWithin (ownKinds name) f)
    (hadded : s.isAdded = true) : name ∈ apartElements ∧ s.kind = .within name := by
  rw [PlacedString.isAdded, isCut_of_mem_stringsWithin hs, ownKinds, Bool.and_eq_true,
    Bool.not_eq_true'] at hadded
  obtain ⟨htaken, hnot⟩ := hadded
  by_cases hapart : apartElements.elem name = true
  · rw [if_pos hapart, beq_iff_eq] at htaken
    exact ⟨List.elem_iff.mp hapart, htaken⟩
  · rw [if_neg hapart, hnot] at htaken
    cases htaken

/-- **Only character data is lost.** -/
theorem kind_of_isLost (hf : f.Placed around) (hs : s ∈ f.strings) (hlost : s.isLost = true) :
    s.kind = .cdata := by
  induction f generalizing around with
  | nil => exact absurd hs List.not_mem_nil
  | text kind content next ih =>
      rcases List.mem_cons.mp hs with rfl | hmem
      · cases kind with
        | cdata => rfl
        | plain => cases hlost
        | hidden => cases hlost
        | within name => cases hlost
      · exact ih hf.2 hmem
  | element name inside next ihinside ih =>
      rcases List.mem_append.mp hs with hmem | hmem
      · split at hmem
        · exact ihinside hf.1 hmem
        · exact kind_of_isLost_within hf.1 hmem hlost
      · exact ih hf.2 hmem

/-- **Only strings of elements that keep them apart are added.** -/
theorem kind_of_isAdded (hf : f.Placed around) (haround : ∀ name ∈ around, name ∈ apartElements)
    (hs : s ∈ f.strings) (hadded : s.isAdded = true) :
    ∃ name ∈ apartElements, s.kind = .within name := by
  induction f generalizing around with
  | nil => exact absurd hs List.not_mem_nil
  | text kind content next ih =>
      rcases List.mem_cons.mp hs with rfl | hmem
      · cases kind with
        | within name => exact ⟨name, haround name hf.1, rfl⟩
        | plain => cases hadded
        | cdata => cases hadded
        | hidden => cases hadded
      · exact ih hf.2 haround hmem
  | element name inside next ihinside ih =>
      rcases List.mem_append.mp hs with hmem | hmem
      · split at hmem
        · refine ihinside hf.1 ?_ hmem
          intro other hother
          unfold apartIn at hother
          split at hother
          · rename_i hapart
            exact Option.some.inj hother ▸ List.elem_iff.mp hapart
          · exact haround other hother
        · obtain ⟨hname, hkind⟩ := kind_of_isAdded_within hmem hadded
          exact ⟨name, hname, hkind⟩
      · exact ih hf.2 haround hmem

end Kinds

/-! ## The account -/

open scoped List in
/-- What is taken by two choices differs by what only one of them takes. -/
theorem perm_filter_account {α : Type} (p q : α → Bool) (l : List α) :
    l.filter p ++ l.filter (fun x => !p x && q x)
      ~ l.filter q ++ l.filter fun x => p x && !q x := by
  have hp := List.filter_append_perm q (l.filter p)
  have hq := List.filter_append_perm p (l.filter q)
  rw [List.filter_filter, List.filter_filter] at hp hq
  have hboth : (l.filter fun x => q x && p x) = l.filter fun x => p x && q x :=
    List.filter_congr fun x _ => Bool.and_comm _ _
  have honly : (l.filter fun x => !q x && p x) = l.filter fun x => p x && !q x :=
    List.filter_congr fun x _ => Bool.and_comm _ _
  rw [hboth, honly] at hp
  calc l.filter p ++ l.filter (fun x => !p x && q x)
    _ ~ ((l.filter fun x => p x && q x) ++ l.filter fun x => p x && !q x)
          ++ l.filter fun x => !p x && q x := hp.symm.append_right _
    _ ~ ((l.filter fun x => p x && q x) ++ l.filter fun x => !p x && q x)
          ++ l.filter fun x => p x && !q x := by
        rw [List.append_assoc, List.append_assoc]
        exact List.perm_append_comm.append_left _
    _ ~ l.filter q ++ l.filter fun x => p x && !q x := hq.append_right _

theorem visible_filter_flatMap (p : PlacedString → Bool) (l : List PlacedString) :
    visible ((l.filter p).flatMap PlacedString.content)
      = l.flatMap fun s => if p s then visible s.content else [] := by
  induction l with
  | nil => rfl
  | cons s l ih =>
      rw [List.flatMap_cons, ← ih, List.filter_cons]
      split
      · rw [List.flatMap_cons, visible_append]
      · rfl

/-- What nodes and running text have, with what each lacks of the other. -/
theorem perm_account {f : Forest} (hblock : f.hasElement isBlockName = true) :
    (visible (nodesOf f).flatten ++ f.lost).Perm (visible f.runningText ++ f.added) := by
  rw [visible_flatten_nodesOf hblock, cutText_eq_strings, runningText_eq_strings, lost, added,
    ← visible_append, ← visible_append, ← List.flatMap_append, ← List.flatMap_append]
  exact ((perm_filter_account _ _ f.strings).flatMap_right _).filter _

/-- Where nothing is lost or added, both show the same. -/
theorem visible_nodesOf_of_nothing_lost {f : Forest} (hblock : f.hasElement isBlockName = true)
    (hlost : f.lost = []) (hadded : f.added = []) :
    visible (nodesOf f).flatten = visible f.runningText := by
  rw [lost, visible_filter_flatMap, List.flatMap_eq_nil_iff] at hlost
  rw [added, visible_filter_flatMap, List.flatMap_eq_nil_iff] at hadded
  rw [visible_flatten_nodesOf hblock, cutText_eq_strings, runningText_eq_strings,
    visible_filter_flatMap, visible_filter_flatMap]
  refine List.flatMap_congr fun s hs => ?_
  have hnotlost := hlost s hs
  have hnotadded := hadded s hs
  -- a string that is taken by one of the two alone has nothing visible
  cases hcut : s.isCut with
  | true =>
      cases hrunning : isRunning s.kind with
      | true => rfl
      | false =>
          rw [PlacedString.isAdded, hcut, hrunning] at hnotadded
          exact hnotadded
  | false =>
      cases hrunning : isRunning s.kind with
      | true =>
          rw [PlacedString.isLost, hcut, hrunning] at hnotlost
          exact hnotlost.symm
      | false => rfl

/-- **What is read of markup with blocks, and what of its running text.** The visible characters of
the nodes are those of the running text but for what is lost and added. So the two show the same
if nothing is lost or added; and they do not if either is the case without the other. What can be
lost is character data, and what can be added are strings of elements that keep theirs apart. -/
theorem visible_nodesOf_iff {t : Text} {f : Forest} (hread : Forest.read t = .ok f)
    (hblock : f.hasElement isBlockName = true) :
    (visible (nodesOf f).flatten ++ f.lost).Perm (visible f.runningText ++ f.added)
      ∧ (f.lost = [] ∨ f.added = [] →
          (visible (nodesOf f).flatten = visible f.runningText ↔ f.lost = [] ∧ f.added = []))
      ∧ (∀ s ∈ f.strings, s.isLost = true → s.kind = .cdata)
      ∧ ∀ s ∈ f.strings, s.isAdded = true → ∃ name ∈ apartElements, s.kind = .within name := by
  have hplaced := placed_of_read hread
  have haccount := perm_account hblock
  refine ⟨haccount, fun hone => ⟨fun heq => ?_, fun h => ?_⟩,
    fun s hs hlost => kind_of_isLost hplaced hs hlost,
    fun s hs hadded => kind_of_isAdded hplaced nofun hs hadded⟩
  · rw [heq, List.perm_append_left_iff] at haccount
    rcases hone with hlost | hadded
    · rw [hlost] at haccount
      exact ⟨hlost, haccount.symm.eq_nil⟩
    · rw [hadded] at haccount
      exact ⟨haccount.eq_nil, hadded⟩
  · exact visible_nodesOf_of_nothing_lost hblock h.1 h.2

/-- Where markup has neither character data nor strings that are kept apart, nothing is lost or
added. -/
theorem visible_nodesOf_iff_of_bold :
    ∃ f, Forest.read "<div>a <b>c</b><p>d</p></div>" = .ok f
      ∧ f.hasElement isBlockName = true
      ∧ f.lost = [] ∧ f.added = []
      ∧ visible (nodesOf f).flatten = visible f.runningText := by
  have hread : Forest.read "<div>a <b>c</b><p>d</p></div>" = .ok (.element "div" (.text .plain "a "
    (.element "b" (.text .plain "c" .nil) (.element "p" (.text .plain "d" .nil) .nil))) .nil) := by
    decide +kernel
  refine ⟨_, hread, rfl, rfl, rfl, ?_⟩
  exact ((visible_nodesOf_iff hread rfl).2.1 (Or.inl rfl)).mpr ⟨rfl, rfl⟩

/-- **Neither is always so.** A style sheet beside a paragraph is a node, but not running text; and
character data in a paragraph is running text, but in no node. -/
theorem style_added_data_lost :
    (∃ f, Forest.read "<p>a</p><style>x</style>" = .ok f
        ∧ f.hasElement isBlockName = true
        ∧ nodesOf f = ["a", "x"].map String.toList ∧ f.runningText = "a".toList
        ∧ visible (nodesOf f).flatten ≠ visible f.runningText)
      ∧ ∃ f, Forest.read "<p>a<![CDATA[b]]></p>" = .ok f
        ∧ f.hasElement isBlockName = true
        ∧ nodesOf f = ["a"].map String.toList ∧ f.runningText = "ab".toList
        ∧ visible (nodesOf f).flatten ≠ visible f.runningText := by
  have hstyle : Forest.read "<p>a</p><style>x</style>" = .ok (.element "p" (.text .plain "a" .nil)
    (.element "style" (.text (.within "style") "x" .nil) .nil)) := by decide +kernel
  have hdata : Forest.read "<p>a<![CDATA[b]]></p>"
      = .ok (.element "p" (.text .plain "a" (.text .cdata "b" .nil)) .nil) := by decide +kernel
  refine ⟨⟨_, hstyle, rfl, ?_, ?_, ?_⟩, ⟨_, hdata, rfl, ?_, ?_, ?_⟩⟩ <;> decide +kernel

end Markup

end LeadScreen
