import LeadScreen.Markup.Tree

set_option autoImplicit false

/-! # Where strings of each kind stand

A string has a kind that tells where it comes from. In markup that is read the kind of a string can
be told from the elements around it (`Forest.Placed`): running text stands in no element that keeps
its strings apart, and a string of such an element has that element as the innermost one around it.
Character data and hidden strings may stand anywhere. `placed_of_read` follows the forest under
construction token by token.
-/

namespace LeadScreen.Markup

/-- The innermost element around that keeps its strings apart, inside an element. -/
def apartIn (around : Option Text) (name : Text) : Option Text :=
  if apartElements.elem name then some name else around

/-- Strings of a kind may stand where `around` is the innermost such element. -/
def Kind.Suits (around : Option Text) : Kind → Prop
  | .plain => around = none
  | .within name => around = some name
  | .cdata => True
  | .hidden => True

/-- **Every string stands where its kind says.** -/
def Forest.Placed (around : Option Text) : Forest → Prop
  | .nil => True
  | .text kind _ next => kind.Suits around ∧ next.Placed around
  | .element name inside next => inside.Placed (apartIn around name) ∧ next.Placed around

theorem Forest.Placed.append {around : Option Text} {f g : Forest} (hf : f.Placed around)
    (hg : g.Placed around) : (f ++ g).Placed around := by
  induction f with
  | nil => exact hg
  | text kind content next ih => exact ⟨hf.1, ih hf.2⟩
  | element name inside next _ ih => exact ⟨hf.1, ih hf.2⟩

namespace Builder

variable {b : Builder} {piece : Forest}

/-- The innermost open element that keeps its strings apart. -/
def apart : List Frame → Option Text
  | [] => none
  | frame :: frames => apartIn (apart frames) frame.name

def FramesPlaced : List Frame → Prop
  | [] => True
  | frame :: frames => frame.inside.Placed (apart (frame :: frames)) ∧ FramesPlaced frames

/-- **The invariant of a forest under construction.** -/
structure Placed (b : Builder) : Prop where
  done : b.done.Placed none
  frames : FramesPlaced b.frames

theorem suits_kind (b : Builder) : b.kind.Suits (apart b.frames) := by
  unfold kind
  induction b.frames with
  | nil => rfl
  | cons frame frames ih =>
      -- the first frame that keeps its strings apart is the innermost one
      rw [List.find?_cons, apart, apartIn]
      cases apartElements.elem frame.name with
      | true => rfl
      | false => exact ih

theorem Placed.add (hb : b.Placed) (hpiece : piece.Placed (apart b.frames)) :
    (b.add piece).Placed := by
  obtain ⟨hdone, hframes⟩ := hb
  unfold Builder.add
  cases hopen : b.frames with
  | nil =>
      rw [hopen] at hpiece
      exact ⟨hdone.append hpiece, trivial⟩
  | cons frame frames =>
      rw [hopen] at hpiece hframes
      exact ⟨hdone, hframes.1.append hpiece, hframes.2⟩

theorem Placed.flush (hb : b.Placed) : b.flush.Placed := by
  unfold Builder.flush
  split
  · exact hb
  · have hstring : Forest.Placed (apart b.frames) (.text b.kind (b.kept b.pending) .nil) :=
      ⟨b.suits_kind, trivial⟩
    have hadd := hb.add hstring
    exact ⟨hadd.done, hadd.frames⟩

/-- Character data and hidden strings may be added anywhere. -/
theorem Placed.addString (hb : b.Placed) (kind : Kind) (hkind : ∀ around, kind.Suits around)
    (content : Text) : (b.addString kind content).Placed :=
  hb.flush.add ⟨hkind _, trivial⟩

theorem Placed.openElement (hb : b.Placed) (name : Text) : (b.openElement name).Placed :=
  ⟨hb.flush.done, trivial, hb.flush.frames⟩

theorem Placed.pop (hb : b.Placed) : b.pop.Placed := by
  obtain ⟨hdone, hframes⟩ := hb
  unfold Builder.pop
  cases hopen : b.frames with
  | nil => exact ⟨hdone, by rw [hopen]; trivial⟩
  | cons frame frames =>
      rw [hopen] at hframes
      have hrest : Placed { b with frames := frames } := ⟨hdone, hframes.2⟩
      exact hrest.add ⟨hframes.1, trivial⟩

theorem Placed.repeat_pop (hb : b.Placed) (n : Nat) : (Nat.repeat Builder.pop n b).Placed := by
  induction n with
  | zero => exact hb
  | succ n ih => exact ih.pop

theorem Placed.endTag (hb : b.Placed) (name : Text) : (b.endTag name).Placed := by
  unfold Builder.endTag
  split
  · exact ⟨hb.done, hb.frames⟩
  · unfold closeElement
    split
    · exact hb.flush
    · exact hb.flush.repeat_pop _

theorem Placed.take (hb : b.Placed) (token : Token) : (b.take token).Placed := by
  cases token with
  | text content => exact ⟨hb.done, hb.frames⟩
  | startTag name selfClosing =>
      have hopen := hb.openElement name
      cases selfClosing with
      | true => exact hopen.pop
      | false =>
          rw [Builder.take]
          split
          · exact ⟨hopen.pop.done, hopen.pop.frames⟩
          · exact hopen
  | endTag name => exact hb.endTag name
  | cdata content => exact hb.addString .cdata (fun _ => trivial) content
  | hidden content => exact hb.addString .hidden (fun _ => trivial) content

theorem Placed.foldl_take (hb : b.Placed) (tokens : List Token) :
    (tokens.foldl Builder.take b).Placed := by
  induction tokens generalizing b with
  | nil => exact hb
  | cons token tokens ih => exact ih (hb.take token)

end Builder

/-- **In markup that is read, every string stands where its kind says.** -/
theorem placed_of_read {t : Text} {f : Forest} (h : Forest.read t = .ok f) : f.Placed none := by
  unfold Forest.read at h
  cases htokens : tokens t with
  | error err =>
      rw [htokens] at h
      cases h
  | ok ts =>
      rw [htokens] at h
      cases h
      have hfresh : Builder.Placed {} := ⟨trivial, trivial⟩
      exact ((hfresh.foldl_take ts).flush.repeat_pop _).done

end LeadScreen.Markup
