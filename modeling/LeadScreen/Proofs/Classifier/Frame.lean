import LeadScreen.Proofs.Classifier.Effects

set_option autoImplicit false

/-! # What a node leaves alone

Comments are lists under sections and keys, and a node that is fed touches one of them at most: the
one under the section that is current behind the node and under one key (`AppendsAt`). What that
list held stays in front, every other list stays as it is, no section is closed, and none is opened
but the current one (`feed_appends_in_one_place`). So a list that once stands is the front of what
stands there after any further nodes (`front_of_run`).
-/

namespace LeadScreen

namespace Comments

variable {c d : Comments} {s s' : Section} {key key' : Text} {items values : List Text}

/-! ## Single lists -/

def list? (c : Comments) (s : Section) (key : Text) : Option (List Text) :=
  (c.get? s).bind (Assoc.get? key)

theorem list?_eq_some_iff : c.list? s key = some items
    ↔ ∃ bucket, c.get? s = some bucket ∧ Assoc.get? key bucket = some items :=
  Option.bind_eq_some_iff

/-- In comments that grew, a list has what it held in front. -/
theorem Extends.front (h : c.Extends d) (hitems : c.list? s key = some items) :
    ∃ more, d.list? s key = some (items ++ more) := by
  obtain ⟨old, hold, hlist⟩ := list?_eq_some_iff.mp hitems
  obtain ⟨new, hnew, hfront⟩ := h s old hold
  obtain ⟨held, hheld, more, rfl⟩ := hfront key items hlist
  exact ⟨more, list?_eq_some_iff.mpr ⟨new, hnew, hheld⟩⟩

theorem Extends.isOpen (h : c.Extends d) (hs : c.IsOpen s) : d.IsOpen s := by
  obtain ⟨old, hold⟩ := Assoc.exists_get?_iff.mpr hs
  obtain ⟨new, hnew, -⟩ := h s old hold
  exact Assoc.exists_get?_iff.mp ⟨new, hnew⟩

/-- Opening a section puts no list into it. -/
theorem list?_openSection (c : Comments) (s s' : Section) (key : Text) :
    (c.openSection s).list? s' key = c.list? s' key := by
  rw [list?, openSection, Assoc.get?_alter, list?]
  split
  · rename_i hs
    rw [hs]
    cases c.get? s <;> rfl
  · rfl

/-- Pushing leaves the lists under other keys alone. -/
theorem list?_push_of_ne (hkey : key' ≠ key) (c : Comments) (s s' : Section)
    (values : List Text) : (c.push s key values).list? s' key' = c.list? s' key' := by
  unfold push
  split
  · exact list?_openSection c s s' key'
  · rw [list?, Assoc.get?_alter, list?]
    split
    · rename_i hs
      rw [hs, Option.bind_some, Assoc.get?_alter_of_ne hkey]
      cases c.get? s <;> rfl
    · rfl

/-- **The comments `d` are `c` with something appended in one place**, if anywhere: to the list
under a section and a key, which may be new, as may be the section. -/
structure AppendsAt (s : Section) (key : Text) (c d : Comments) : Prop where
  /-- All other lists are as they were. -/
  elsewhere : ∀ s' key', ¬ (s' = s ∧ key' = key) → d.list? s' key' = c.list? s' key'
  /-- No list loses anything: what it held is in front. -/
  front : ∀ s' key' items, c.list? s' key' = some items →
    ∃ more, d.list? s' key' = some (items ++ more)
  /-- No section is closed. -/
  stays : ∀ s', c.IsOpen s' → d.IsOpen s'
  /-- No other section is opened. -/
  opened : ∀ s', d.IsOpen s' → s' = s ∨ c.IsOpen s'

end Comments

namespace Classifier

variable {c : Comments} {s : Section} {e : Effect}

/-- An effect has to do with one key at most. -/
theorem Effect.exists_key (e : Effect) (c : Comments) :
    ∃ key, ∀ s' key', key' ≠ key → (e.apply c).list? s' key' = c.list? s' key' := by
  cases e with
  | none => exact ⟨[], fun _ _ _ => rfl⟩
  | openSection s => exact ⟨[], fun s' key' _ => Comments.list?_openSection c s s' key'⟩
  | push s key values =>
      exact ⟨key, fun s' key' hkey => Comments.list?_push_of_ne hkey c s s' values⟩

/-- **An effect in a section appends in one place of it.** -/
theorem Effect.At.appendsAt (h : e.At s) (c : Comments) :
    ∃ key, Comments.AppendsAt s key c (e.apply c) := by
  obtain ⟨key, hkey⟩ := e.exists_key c
  have hgrown := e.extends_apply c
  refine ⟨key, fun s' key' hother => ?_, fun s' key' items => hgrown.front,
    fun s' => hgrown.isOpen, fun s' => h.isOpen_apply⟩
  -- the list is in another section, or under another key of this one
  by_cases hs : s' = s
  · exact hkey s' key' fun hsame => hother ⟨hs, hsame⟩
  · rw [Comments.list?, h.get?_apply hs, Comments.list?]

/-- **A node appends in one place.** Whatever stands in the comments and whatever the node is, the
comments after it differ from those before it in one list at most, which stands in the section that
is current then; every list that was there is the front of the list that is there now; and no
section but the current one is opened, and none closed. -/
theorem feed_appends_in_one_place (c : Classifier) (node : Text) :
    ∃ key, Comments.AppendsAt (c.feed node).position.current key c.comments
      (c.feed node).comments := by
  obtain ⟨q, e, hreads⟩ := exists_reads c.position node
  rw [feed_eq hreads]
  exact (at_of_reads hreads).appendsAt c.comments

/-- **Lists only grow**: after any nodes, a list has what it held before them in front. -/
theorem front_of_run (c : Classifier) (nodes : List Text) {key : Text} {items : List Text}
    (h : c.comments.list? s key = some items) :
    ∃ more, (run c nodes).comments.list? s key = some (items ++ more) := by
  rw [comments_run]
  exact (extends_foldl (effectsFrom c.position nodes) c.comments).front h

end Classifier

end LeadScreen
