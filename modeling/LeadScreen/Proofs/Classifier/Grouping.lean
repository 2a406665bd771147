import LeadScreen.Proofs.Classifier.Comments
import LeadScreen.Proofs.Classifier.Rules

set_option autoImplicit false

/-! # Comments as a grouping

Seen from outside, classifying nodes is a grouping. By the rules each node emits at most one
entry, values for a section and a key; the entries of all nodes are collected by section and key,
and a list holds what was collected for it: trimmed, without empty values, of equal ones the
first. `classify_eq_grouped` says that the comments, which are built up by changing nested lists
node by node, are this grouping.
-/

namespace LeadScreen.Classifier

/-! ## What nodes emit -/

structure Entry where
  place : Section
  key : Text
  values : List Text
deriving DecidableEq, Repr

def Effect.entry? : Effect → Option Entry
  | .none => .none
  | .openSection _ => .none
  | .push s key values => .some ⟨s, key, values⟩

/-- **The rules for a sequence of nodes**: `Trace p nodes q effects` says that the nodes, read from
position `p` on, have these effects in order and leave the classifier at `q`. -/
inductive Trace : Position → List Text → Position → List Effect → Prop where
  | nil (p : Position) : Trace p [] p []
  | cons {p q r : Position} {node : Text} {nodes : List Text} {e : Effect} {effects : List Effect}
      (h : Reads p node q e) (rest : Trace q nodes r effects) :
      Trace p (node :: nodes) r (e :: effects)

/-! ## The grouping -/

/-- What the entries give to a section and a key, in order. -/
def collected (entries : List Entry) (s : Section) (key : Text) : List Text :=
  (entries.filter fun e => e.place = s ∧ e.key = key).flatMap (·.values)

/-- The list of a section and a key: what the entries give to it, trimmed, without empty values,
of equal ones the first. -/
def grouped (entries : List Entry) (s : Section) (key : Text) : List Text :=
  (tidy (collected entries s key)).eraseDups

theorem collected_append (entries more : List Entry) (s : Section) (key : Text) :
    collected (entries ++ more) s key = collected entries s key ++ collected more s key := by
  rw [collected, List.filter_append, List.flatMap_append]
  rfl

/-! ## One effect, and all of them -/

/-- An effect pushes to each list what its entry gives to that list. -/
theorem values_apply (e : Effect) (c : Comments) (s : Section) (key : Text) :
    (e.apply c).values s key
      = (tidy (collected e.entry?.toList s key)).foldl pushNew (c.values s key) := by
  cases e with
  | none => rfl
  | openSection s' => exact Comments.values_openSection c s' s key
  | push s' key' values =>
      show (c.push s' key' values).values s key = _
      rw [Comments.values_push]
      by_cases h : s = s' ∧ key = key'
      · obtain ⟨rfl, rfl⟩ := h
        rw [if_pos ⟨rfl, rfl⟩, Comments.pushValues_eq_foldl]
        simp [Effect.entry?, collected]
      · have hnot : ¬ (s' = s ∧ key' = key) := fun h' => h ⟨h'.1.symm, h'.2.symm⟩
        rw [if_neg h]
        simp [Effect.entry?, collected, hnot, tidy]

/-- A run goes where the rules lead, and pushes to each list what was collected for it. -/
theorem run_of_trace {c : Classifier} {nodes : List Text} {q : Position} {effects : List Effect}
    (h : Trace c.position nodes q effects) :
    (run c nodes).position = q ∧ ∀ s key, (run c nodes).comments.values s key
      = (tidy (collected (effects.filterMap Effect.entry?) s key)).foldl pushNew
          (c.comments.values s key) := by
  generalize hp : c.position = p at h
  -- along the trace, with the classifier as it is before each node
  induction h generalizing c with
  | nil p => exact ⟨hp, fun s key => rfl⟩
  | @cons p q r node nodes e effects hread rest ih =>
      subst hp
      have hfeed := feed_eq hread
      obtain ⟨hpos, hvalues⟩ := ih (c := c.feed node) (by rw [hfeed])
      refine ⟨hpos, fun s key => ?_⟩
      have hentries : (e :: effects).filterMap Effect.entry?
          = e.entry?.toList ++ effects.filterMap Effect.entry? := by
        cases he : e.entry? <;> simp [he]
      calc (run c (node :: nodes)).comments.values s key
          = (tidy (collected (effects.filterMap Effect.entry?) s key)).foldl pushNew
              ((c.feed node).comments.values s key) := hvalues s key
        _ = (tidy (collected (effects.filterMap Effect.entry?) s key)).foldl pushNew
              ((tidy (collected e.entry?.toList s key)).foldl pushNew
                (c.comments.values s key)) := by rw [hfeed, values_apply]
        _ = _ := by rw [hentries, collected_append, tidy_append, List.foldl_append]

/-- The lists that nodes make up, by their effects. -/
theorem values_classify {nodes : List Text} {q : Position} {effects : List Effect}
    (h : Trace {} nodes q effects) (s : Section) (key : Text) :
    (classify nodes).values s key = grouped (effects.filterMap Effect.entry?) s key := by
  rw [classify, (run_of_trace (c := {}) h).2 s key]
  exact foldl_pushNew_eraseDups [] _

theorem exists_trace (p : Position) (nodes : List Text) : ∃ q effects, Trace p nodes q effects := by
  induction nodes generalizing p with
  | nil => exact ⟨p, [], .nil p⟩
  | cons node nodes ih =>
      obtain ⟨q, e, hread⟩ := exists_reads p node
      obtain ⟨r, effects, htrace⟩ := ih q
      exact ⟨r, e :: effects, .cons hread htrace⟩

theorem unique_run {c : Classifier} (hc : c.comments.Unique) (nodes : List Text) :
    (run c nodes).comments.Unique := by
  induction nodes generalizing c with
  | nil => exact hc
  | cons node nodes ih => exact ih (hc.apply (step c.position node).2)

/-- **Classifying is grouping.** The rules determine where a node leads and what it emits, from the
position and the node alone; and for any sequence of nodes, each list of the comments is the
grouping of the entries that the nodes emit, whether it is read or found where it stands. -/
theorem classify_eq_grouped (nodes : List Text) :
    (∀ p node, ∃! out : Position × Effect, Reads p node out.1 out.2)
      ∧ (∀ (c : Classifier) node q e, Reads c.position node q e → (c.feed node).position = q)
      ∧ ∃ effects, Trace {} nodes (run {} nodes).position effects
        ∧ (∀ s key, (classify nodes).values s key
            = grouped (effects.filterMap Effect.entry?) s key)
        ∧ ∀ s key items, (classify nodes).Lists s key items
            → items = grouped (effects.filterMap Effect.entry?) s key := by
  refine ⟨fun p node => ?_, fun c node q e h => by rw [feed_eq h], ?_⟩
  · obtain ⟨q, e, h⟩ := exists_reads p node
    refine ⟨(q, e), h, fun out hout => ?_⟩
    rw [← reads_iff.mp h, reads_iff.mp hout]
  · obtain ⟨q, effects, htrace⟩ := exists_trace {} nodes
    obtain ⟨hpos, hvalues⟩ := run_of_trace (c := {}) htrace
    have hgroup : ∀ s key, (classify nodes).values s key
        = grouped (effects.filterMap Effect.entry?) s key := by
      intro s key
      -- a fresh classifier starts every list empty, as an erasure of nothing
      rw [classify, hvalues s key]
      exact foldl_pushNew_eraseDups [] _
    refine ⟨effects, hpos ▸ htrace, hgroup, fun s key items hitems => ?_⟩
    have hunique : (classify nodes).Unique := unique_run Comments.Unique.nil nodes
    rw [← hgroup, Comments.values_of_lists hunique hitems]

end LeadScreen.Classifier
