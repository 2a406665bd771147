import LeadScreen.Proofs.Classifier.Accounting
import LeadScreen.Proofs.Classifier.Effects

set_option autoImplicit false

/-! # Blocks of a narrative

The nodes of a narrative come in section blocks (`SectionBlock`): a header, and behind it nodes that
open no other section and leave no key waiting. Since it begins with a header, a block reads the
same wherever it stands, and all that it does is done in its own section. So blocks of different
sections may change places, and a block that was taken up before may come again:
`classify_rearranged` says that neither changes the comments.
-/

namespace LeadScreen.Classifier

variable {p q : Position} {s : Section} {node : Text} {e : Effect}

/-! ## Headers -/

theorem LineOf.trim_ne_nil {line before after : Text} (hline : LineOf node line)
    (hpair : Pair line before after) : node.trim ≠ [] := by
  intro hblank
  have hcolon : ':' ∈ line := by
    rw [hpair.1]
    simp
  have hall := List.all_eq_true.mp (Text.trim_eq_nil_iff.mp hblank)
  exact absurd (hall ':' (hline.isInfix.subset hcolon)) (by decide)

/-- **A header reads the same wherever it stands**, as long as no key waits there: its section is
the current one after it, and it does nothing elsewhere. -/
theorem IsHeader.exists_reads (h : IsHeader p node s) :
    ∃ e, e.At s ∧ ∀ q, q.pending = none → Reads q node ⟨s, none⟩ e := by
  obtain ⟨-, line, before, after, hline, hpair, hopens⟩ := h
  have hnode : node.trim ≠ [] := hline.trim_ne_nil hpair
  by_cases hvalue : after.trim = []
  · exact ⟨_, .openSection, fun q hq => .line hnode hq hline (.opening hpair hopens hvalue)⟩
  · cases hopens with
    | header _ _ hblank => exact absurd hblank hvalue
    | custom hkey =>
        exact ⟨_, .push _ _, fun q hq => .line hnode hq hline (.custom hpair hkey hvalue)⟩

/-- Whether the effect is that of a header, if no key waits after it. -/
def Effect.isOpening : Effect → Bool
  | .none => false
  | .openSection _ => true
  | .push _ key _ => decide (key = Section.customIndustries.name)

/-- Headers are told by the step: no key waits before it or after it, and it opens a section. -/
theorem isHeader_iff : IsHeader p node s
    ↔ p.pending = none ∧ (step p node).1 = ⟨s, none⟩ ∧ (step p node).2.isOpening = true := by
  constructor
  · intro h
    obtain ⟨hp, line, before, after, hline, hpair, hopens⟩ := h
    have hnode : node.trim ≠ [] := hline.trim_ne_nil hpair
    refine ⟨hp, ?_⟩
    by_cases hvalue : after.trim = []
    · rw [step_eq (.line hnode hp hline (.opening hpair hopens hvalue))]
      exact ⟨rfl, rfl⟩
    · cases hopens with
      | header _ _ hblank => exact absurd hblank hvalue
      | custom hkey =>
          rw [step_eq (.line hnode hp hline (.custom hpair hkey hvalue))]
          exact ⟨rfl, decide_eq_true hkey⟩
  · rintro ⟨hp, hplace, hopening⟩
    obtain ⟨q, e, hreads⟩ := exists_reads p node
    rw [step_eq hreads] at hplace hopening
    -- of the rules, only that of a header and that of custom industries have an opening effect
    -- and leave no key waiting
    have hlines : (Effect.push p.current linesKey []).isOpening = false := rfl
    cases hreads with
    | blank _ => exact Bool.noConfusion hopening
    | awaited _ hkey => exact absurd (hp.symm.trans hkey) (Option.some_ne_none _).symm
    | @line line _ _ _ _ hline h =>
        cases h with
        | unkeyed _ => exact Bool.noConfusion (hlines.symm.trans hopening)
        | nameless _ _ => exact Bool.noConfusion (hlines.symm.trans hopening)
        | @opening s' before after hpair hopens _ =>
            obtain rfl : s' = s := congrArg Position.current hplace
            exact ⟨hp, line, before, after, hline, hpair, hopens⟩
        | @custom before after hpair hkey _ =>
            obtain rfl : Section.customIndustries = s := congrArg Position.current hplace
            exact ⟨hp, line, before, after, hline, hpair, .custom hkey⟩
        | keyed _ _ hs _ => exact absurd (of_decide_eq_true hopening) hs
        | waiting _ _ _ _ =>
            exact absurd (congrArg Position.pending hplace) (Option.some_ne_none _)

instance (p : Position) (node : Text) (s : Section) : Decidable (IsHeader p node s) :=
  decidable_of_iff _ isHeader_iff.symm

/-- Any other node is taken up in the section where it stands. -/
theorem at_of_not_isHeader (h : Reads p node q e) (hno : ∀ s, ¬ IsHeader p node s) :
    q.current = p.current ∧ e.At p.current := by
  have hcurrent : q.current = p.current := by
    cases h with
    | blank _ => rfl
    | awaited _ _ => rfl
    | @line line _ _ _ hp hline h =>
        cases h with
        | unkeyed _ => rfl
        | nameless _ _ => rfl
        | @opening s before after hpair hopens _ =>
            exact absurd ⟨hp, line, before, after, hline, hpair, hopens⟩ (hno s)
        | @custom before after hpair hkey _ =>
            exact absurd ⟨hp, line, before, after, hline, hpair, .custom hkey⟩ (hno _)
        | keyed _ _ _ _ => rfl
        | waiting _ _ _ _ => rfl
  exact ⟨hcurrent, hcurrent ▸ at_of_reads h⟩

/-- Nodes that open no section when they are read from a position on. -/
def OpenNothing : Position → List Text → Prop
  | _, [] => True
  | p, node :: nodes => (∀ s, ¬ IsHeader p node s) ∧ OpenNothing (step p node).1 nodes

instance decidableOpenNothing :
    (p : Position) → (nodes : List Text) → Decidable (OpenNothing p nodes)
  | _, [] => inferInstanceAs (Decidable True)
  | p, node :: nodes =>
    have : Decidable (∀ s, ¬ IsHeader p node s) :=
      decidable_of_iff (∀ s ∈ Section.all, ¬ IsHeader p node s)
        ⟨fun h s => h s s.mem_all, fun h s _ => h s⟩
    have := decidableOpenNothing (step p node).1 nodes
    inferInstanceAs (Decidable (_ ∧ _))

theorem OpenNothing.run_at {c : Classifier} {nodes : List Text} (h : OpenNothing c.position nodes) :
    (run c nodes).position.current = c.position.current
      ∧ ∀ e ∈ effectsFrom c.position nodes, e.At c.position.current := by
  induction nodes generalizing c with
  | nil => exact ⟨rfl, fun e he => absurd he List.not_mem_nil⟩
  | cons node nodes ih =>
      obtain ⟨hno, hrest⟩ := h
      obtain ⟨hcurrent, hat⟩ := at_of_not_isHeader (reads_iff.mpr rfl) hno
      obtain ⟨hlast, hall⟩ := ih (c := c.feed node) hrest
      have hfeed : (c.feed node).position.current = c.position.current := hcurrent
      rw [hfeed] at hlast hall
      refine ⟨hlast, fun e he => ?_⟩
      rcases List.mem_cons.mp he with rfl | hmem
      · exact hat
      · exact hall e hmem

/-! ## Section blocks -/

/-- **A section block**: a header, and behind it nodes that open no section and leave no key
waiting at the end. -/
structure SectionBlock where
  place : Section
  header : Text
  body : List Text
  opens : IsHeader {} header place
  stays : OpenNothing ⟨place, none⟩ body
  settles : (run {} (header :: body)).position.pending = none

namespace SectionBlock

def nodes (b : SectionBlock) : List Text :=
  b.header :: b.body

def effects (b : SectionBlock) : List Effect :=
  effectsFrom {} b.nodes

def nodesOf (bs : List SectionBlock) : List Text :=
  bs.flatMap nodes

variable (b : SectionBlock) {c : Classifier} {bs bs' : List SectionBlock}

/-- A block has the same effects wherever it stands, if no key waits there. -/
theorem effectsFrom_nodes (hp : p.pending = none) : effectsFrom p b.nodes = b.effects := by
  obtain ⟨e, -, hreads⟩ := b.opens.exists_reads
  have hstep : step p b.header = step {} b.header := by
    rw [reads_iff.mp (hreads p hp), reads_iff.mp (hreads {} rfl)]
  show (step p b.header).2 :: effectsFrom (step p b.header).1 b.body = _
  rw [hstep]
  rfl

theorem at_of_mem_effects (he : e ∈ b.effects) : e.At b.place := by
  obtain ⟨opening, hat, hreads⟩ := b.opens.exists_reads
  have hstep : step {} b.header = (⟨b.place, none⟩, opening) := reads_iff.mp (hreads {} rfl)
  have hbody := OpenNothing.run_at (c := ⟨⟨b.place, none⟩, []⟩) b.stays
  have hsplit : b.effects = opening :: effectsFrom ⟨b.place, none⟩ b.body := by
    show (step {} b.header).2 :: effectsFrom (step {} b.header).1 b.body = _
    rw [hstep]
  rw [hsplit] at he
  rcases List.mem_cons.mp he with rfl | hmem
  · exact hat
  · exact hbody.2 e hmem

theorem pending_run (hc : c.position.pending = none) :
    (run c b.nodes).position.pending = none := by
  obtain ⟨e, -, hreads⟩ := b.opens.exists_reads
  have hhead : (c.feed b.header).position = (feed {} b.header).position := by
    rw [feed_eq (hreads c.position hc), feed_eq (hreads (Position.mk .root none) rfl)]
  show (run (c.feed b.header) b.body).position.pending = none
  rw [position_run_congr hhead]
  exact b.settles

/-- Blocks do one after the other what each of them does. -/
theorem comments_run_nodesOf (hc : c.position.pending = none) :
    (run c (nodesOf bs)).comments
      = (bs.flatMap effects).foldl Effect.apply c.comments := by
  induction bs generalizing c with
  | nil => rfl
  | cons b bs ih =>
      have hsplit : run c (nodesOf (b :: bs)) = run (run c b.nodes) (nodesOf bs) := by
        rw [nodesOf, List.flatMap_cons, run, List.foldl_append]
        rfl
      rw [hsplit, ih (b.pending_run hc), comments_run, b.effectsFrom_nodes hc, List.flatMap_cons,
        List.foldl_append]

theorem classify_nodesOf (bs : List SectionBlock) :
    classify (nodesOf bs) = (bs.flatMap effects).foldl Effect.apply [] :=
  comments_run_nodesOf (c := {}) rfl

/-! ## Blocks in another order -/

/-- A section is made by its own blocks. -/
theorem get?_foldl_filter (s : Section) (bs : List SectionBlock) {c d : Comments}
    (hcd : c.get? s = d.get? s) :
    ((bs.flatMap effects).foldl Effect.apply c).get? s
      = (((bs.filter fun b => b.place = s).flatMap effects).foldl Effect.apply d).get? s := by
  induction bs generalizing c d with
  | nil => exact hcd
  | cons b bs ih =>
      rw [List.flatMap_cons, List.foldl_append]
      -- a block of the section does the same on both sides, any other does nothing to the section
      by_cases hs : b.place = s
      · rw [List.filter_cons_of_pos (by simpa using hs), List.flatMap_cons, List.foldl_append]
        exact ih (get?_foldl_congr (fun e he => hs ▸ b.at_of_mem_effects he) hcd)
      · rw [List.filter_cons_of_neg (by simpa using hs)]
        refine ih ?_
        rw [get?_foldl_of_at (fun e he => b.at_of_mem_effects he) (Ne.symm hs), hcd]

/-- **The blocks in another order**, in which those of each section come as before. -/
structure Rearranged (bs bs' : List SectionBlock) : Prop where
  perm : bs.Perm bs'
  order : ∀ s, bs.filter (fun b => b.place = s) = bs'.filter (fun b => b.place = s)

/-- **Section blocks may change places and come again.** In another order, in which the blocks of
each section come as before, blocks make up the same sections, each with the same lists. A block
that comes once more changes nothing, wherever it comes behind its first time. -/
theorem classify_rearranged (h : Rearranged bs bs') :
    (∀ s, (classify (nodesOf bs)).get? s = (classify (nodesOf bs')).get? s)
      ∧ ∀ b ∈ bs, ∀ more,
          classify (nodesOf (bs ++ b :: more)) = classify (nodesOf (bs ++ more)) := by
  refine ⟨fun s => ?_, fun b hb more => ?_⟩
  · rw [classify_nodesOf, classify_nodesOf, get?_foldl_filter s bs rfl, h.order s,
      ← get?_foldl_filter s bs' rfl]
  · -- all that the block does was done when it came first
    have hdone : ∀ e ∈ b.effects, e.Done ((bs.flatMap effects).foldl Effect.apply []) :=
      fun e he => done_foldl (List.mem_flatMap.mpr ⟨b, hb, he⟩) []
    rw [classify_nodesOf, classify_nodesOf, List.flatMap_append, List.flatMap_append,
      List.flatMap_cons, List.foldl_append, List.foldl_append, List.foldl_append,
      foldl_of_done hdone]

def directors : SectionBlock where
  place := .titles
  header := "1) Titles:"
  body := ["Job Levels: Director"].map String.toList
  opens := by decide +kernel
  stays := by decide +kernel
  settles := by decide +kernel

def industries : SectionBlock where
  place := .customIndustries
  header := "Custom Industries: Software"
  body := ["Keywords:", "cloud, data"].map String.toList
  opens := by decide +kernel
  stays := by decide +kernel
  settles := by decide +kernel

def presidents : SectionBlock where
  place := .titles
  header := "Titles:"
  body := ["Job Levels: VP"].map String.toList
  opens := by decide +kernel
  stays := by decide +kernel
  settles := by decide +kernel

/-- Industries may come before both blocks of titles or between them. -/
theorem classify_rearranged_industries_first :
    Rearranged [directors, industries, presidents] [industries, directors, presidents]
      ∧ (∀ s, (classify (nodesOf [directors, industries, presidents])).get? s
          = (classify (nodesOf [industries, directors, presidents])).get? s)
      ∧ classify (nodesOf [directors, industries, presidents, directors])
          = classify (nodesOf [directors, industries, presidents]) := by
  have h : Rearranged [directors, industries, presidents] [industries, directors, presidents] :=
    ⟨List.Perm.swap _ _ _, fun s => by cases s <;> rfl⟩
  obtain ⟨hsame, hagain⟩ := classify_rearranged h
  exact ⟨h, hsame, hagain directors List.mem_cons_self []⟩

end SectionBlock

end LeadScreen.Classifier
