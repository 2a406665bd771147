import LeadScreen.Proofs.Classifier.Comments
import LeadScreen.Proofs.Classifier.Rules

set_option autoImplicit false

/-! # Effects in order

What nodes do to the comments is a list of effects, one for each node, that can be told without the
comments (`effectsFrom`, `comments_run`). Two things are said of an effect here. It changes one
section at most, and what it makes of that section depends on no other (`Effect.At`). And it may
have nothing left to do (`Effect.Done`): that is so once it was applied, and since comments only
grow it stays so, whatever is applied in between.
-/

namespace LeadScreen.Classifier

variable {c d : Comments} {s s' : Section} {e : Effect} {es : List Effect}

/-! ## One effect -/

namespace Effect

/-- The effect changes no other section. -/
inductive At (s : Section) : Effect → Prop where
  | none : At s .none
  | openSection : At s (.openSection s)
  | push (key : Text) (values : List Text) : At s (.push s key values)

/-- All that such an effect does, if it does anything, is to change the entry of its section. -/
theorem At.eq_alter (h : e.At s) :
    (∀ c, e.apply c = c) ∨ ∃ f, ∀ c, e.apply c = Assoc.alter s f c := by
  cases h with
  | none => exact Or.inl fun _ => rfl
  | openSection => exact Or.inr ⟨_, fun _ => rfl⟩
  | push key values =>
      refine Or.inr ?_
      by_cases hnone : values.isEmpty
      · exact ⟨_, fun c => if_pos hnone⟩
      · exact ⟨_, fun c => if_neg hnone⟩

theorem At.get?_apply (h : e.At s) (hne : s' ≠ s) : (e.apply c).get? s' = c.get? s' := by
  rcases h.eq_alter with hsame | ⟨f, halter⟩
  · rw [hsame]
  · rw [halter, Assoc.get?_alter_of_ne hne]

/-- What it makes of its section depends on that section alone. -/
theorem At.get?_apply_congr (h : e.At s) (hcd : c.get? s = d.get? s) :
    (e.apply c).get? s = (e.apply d).get? s := by
  rcases h.eq_alter with hsame | ⟨f, halter⟩
  · rw [hsame, hsame, hcd]
  · rw [halter, halter, Assoc.get?_alter_self, Assoc.get?_alter_self, hcd]

theorem At.isOpen_apply (h : e.At s) (hopen : (e.apply c).IsOpen s') : s' = s ∨ c.IsOpen s' := by
  rcases h.eq_alter with hsame | ⟨f, halter⟩
  · rw [hsame] at hopen
    exact Or.inr hopen
  · rw [halter] at hopen
    exact Comments.isOpen_alter.mp hopen

/-- **The effect has nothing left to do**: its section is open, and its list is there with all its
values in it. -/
def Done (c : Comments) : Effect → Prop
  | .none => True
  | .openSection s => ∃ bucket, c.get? s = some bucket
  | .push s key values => ∃ bucket, c.get? s = some bucket
      ∧ (values ≠ [] → ∃ items, Assoc.get? key bucket = some items ∧ ∀ v ∈ tidy values, v ∈ items)

theorem Done.extends (h : e.Done c) (hcd : c.Extends d) : e.Done d := by
  cases e with
  | none => trivial
  | openSection s =>
      obtain ⟨bucket, hbucket⟩ := h
      obtain ⟨new, hnew, -⟩ := hcd s bucket hbucket
      exact ⟨new, hnew⟩
  | push s key values =>
      obtain ⟨bucket, hbucket, hitems⟩ := h
      obtain ⟨new, hnew, hfront⟩ := hcd s bucket hbucket
      refine ⟨new, hnew, fun hne => ?_⟩
      obtain ⟨items, hitems, hall⟩ := hitems hne
      obtain ⟨more, hmore, hprefix⟩ := hfront key items hitems
      exact ⟨more, hmore, fun v hv => hprefix.subset (hall v hv)⟩

theorem extends_apply (e : Effect) (c : Comments) : c.Extends (e.apply c) := by
  cases e with
  | none => exact Comments.Extends.refl c
  | openSection s => exact Comments.extends_openSection c s
  | push s key values => exact Comments.extends_push c s key values

theorem done_apply (e : Effect) (c : Comments) : e.Done (e.apply c) := by
  cases e with
  | none => trivial
  | openSection s => exact ⟨_, Assoc.get?_alter_self s _ c⟩
  | push s key values =>
      show ∃ bucket, (c.push s key values).get? s = some bucket ∧ _
      unfold Comments.push
      by_cases hnone : values.isEmpty
      · rw [if_pos hnone]
        exact ⟨_, Assoc.get?_alter_self s _ c, fun hne => absurd (List.isEmpty_iff.mp hnone) hne⟩
      · rw [if_neg hnone]
        refine ⟨_, Assoc.get?_alter_self s _ c, fun _ => ⟨_, Assoc.get?_alter_self key _ _, ?_⟩⟩
        exact fun v hv => Comments.mem_pushValues.mpr (Or.inr hv)

/-- An effect that has nothing left to do does nothing. -/
theorem Done.apply_eq (h : e.Done c) : e.apply c = c := by
  cases e with
  | none => rfl
  | openSection s =>
      obtain ⟨bucket, hbucket⟩ := h
      exact Assoc.alter_eq_self hbucket rfl
  | push s key values =>
      obtain ⟨bucket, hbucket, hitems⟩ := h
      show c.push s key values = c
      unfold Comments.push
      by_cases hnone : values.isEmpty
      · rw [if_pos hnone]
        exact Assoc.alter_eq_self hbucket rfl
      · rw [if_neg hnone]
        obtain ⟨items, hlist, hall⟩ := hitems fun hnil => hnone (List.isEmpty_iff.mpr hnil)
        refine Assoc.alter_eq_self hbucket ?_
        exact Assoc.alter_eq_self hlist (Comments.pushValues_eq_self hall)

end Effect

/-- Whatever the rule, a node has its effect in the section that is current behind it. -/
theorem at_of_reads {p q : Position} {node : Text} (h : Reads p node q e) : e.At q.current := by
  cases h with
  | blank _ => exact .none
  | awaited _ _ => exact .push _ _
  | line _ _ _ h =>
      cases h with
      | unkeyed _ => exact .push _ _
      | nameless _ _ => exact .push _ _
      | opening _ _ _ => exact .openSection
      | custom _ _ _ => exact .push _ _
      | keyed _ _ _ _ => exact .push _ _
      | waiting _ _ _ _ => exact .openSection

/-! ## Effects in order -/

theorem extends_foldl (es : List Effect) (c : Comments) : c.Extends (es.foldl Effect.apply c) := by
  induction es generalizing c with
  | nil => exact Comments.Extends.refl c
  | cons e es ih => exact (e.extends_apply c).trans (ih (e.apply c))

theorem done_foldl (he : e ∈ es) (c : Comments) : e.Done (es.foldl Effect.apply c) := by
  induction es generalizing c with
  | nil => exact absurd he List.not_mem_nil
  | cons head es ih =>
      rcases List.mem_cons.mp he with rfl | hmem
      · -- it is done when it is applied, and what comes after only makes the comments grow
        exact (e.done_apply c).extends (extends_foldl es (e.apply c))
      · exact ih hmem (head.apply c)

theorem foldl_of_done (h : ∀ e ∈ es, e.Done c) : es.foldl Effect.apply c = c := by
  induction es with
  | nil => rfl
  | cons e es ih =>
      rw [List.foldl_cons, (h e List.mem_cons_self).apply_eq]
      exact ih fun e' he' => h e' (List.mem_cons_of_mem e he')

theorem get?_foldl_of_at (h : ∀ e ∈ es, e.At s) (hne : s' ≠ s) :
    (es.foldl Effect.apply c).get? s' = c.get? s' := by
  induction es generalizing c with
  | nil => rfl
  | cons e es ih =>
      rw [List.foldl_cons, ih fun e' he' => h e' (List.mem_cons_of_mem e he')]
      exact (h e List.mem_cons_self).get?_apply hne

theorem get?_foldl_congr (h : ∀ e ∈ es, e.At s) (hcd : c.get? s = d.get? s) :
    (es.foldl Effect.apply c).get? s = (es.foldl Effect.apply d).get? s := by
  induction es generalizing c d with
  | nil => exact hcd
  | cons e es ih =>
      exact ih (fun e' he' => h e' (List.mem_cons_of_mem e he'))
        ((h e List.mem_cons_self).get?_apply_congr hcd)

/-! ## What nodes do, read from a position on -/

def effectsFrom (p : Position) : List Text → List Effect
  | [] => []
  | node :: nodes => (step p node).2 :: effectsFrom (step p node).1 nodes

theorem comments_run (c : Classifier) (nodes : List Text) :
    (run c nodes).comments = (effectsFrom c.position nodes).foldl Effect.apply c.comments := by
  induction nodes generalizing c with
  | nil => rfl
  | cons node nodes ih => exact ih (c.feed node)

theorem position_run_congr {c d : Classifier} (h : c.position = d.position) (nodes : List Text) :
    (run c nodes).position = (run d nodes).position := by
  induction nodes generalizing c d with
  | nil => exact h
  | cons node nodes ih =>
      refine ih (c := c.feed node) (d := d.feed node) ?_
      show (step c.position node).1 = (step d.position node).1
      rw [h]

end LeadScreen.Classifier
