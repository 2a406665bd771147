import LeadScreen.Proofs.Classifier.Invariant

set_option autoImplicit false

/-! # What becomes of a node

A node that is not blank should leave a trace: it opens a section, or it is a key that waits for
its value, or a piece of it is a value in the section that is then current (`Accounted`). There
are nodes that leave none (`Hollow`): a number with nothing behind it, and commas in the place of
the values of a key that has several. What is pushed for them is dropped as empty, and the node
with it. `accounted_iff_not_hollow` says that there are no others, for any classifier.
-/

namespace LeadScreen.Classifier

variable {c : Classifier} {p q : Position} {s : Section} {node line before after : Text}

/-- A value that is a piece of the node stands in a section. -/
def HoldsPiece (comments : Comments) (s : Section) (node : Text) : Prop :=
  ∃ key v, v ∈ comments.values s key ∧ v ≠ [] ∧ v.trim = v ∧ v <:+: node

/-- The node is a header: no key waits for a value, and the line of the node opens a section. -/
def IsHeader (p : Position) (node : Text) (s : Section) : Prop :=
  p.pending = none ∧ ∃ line before after, LineOf node line ∧ Pair line before after
    ∧ Opens s before after

/-- **What becomes of a node** that is fed: it is a header and the section switches, or it is a
key that waits now, or a piece of it is stored in the section that is current now. -/
def Accounted (c : Classifier) (node : Text) : Prop :=
  (∃ s, IsHeader c.position node s ∧ (c.feed node).position = ⟨s, none⟩)
    ∨ (∃ key, (c.feed node).position.pending = some key)
    ∨ HoldsPiece (c.feed node).comments (c.feed node).position.current node

/-- **The nodes that leave nothing.** -/
inductive Hollow (p : Position) (node : Text) : Prop where
  /-- A number with nothing behind it. -/
  | number {rest : Text} (hp : p.pending = none) (h : Numbered node rest) (hrest : rest.trim = [])
  /-- Commas and blanks behind a key that waits and has several values. -/
  | awaited {key : Text} (hp : p.pending = some key) (hkey : isMultiValued key = true)
      (hcommas : ∀ c ∈ node, c = ',' ∨ isBlank c = true)
  /-- A key that has several values, with commas and blanks for them. -/
  | keyed {line before after : Text} (hp : p.pending = none) (hline : LineOf node line)
      (h : Pair line before after) (hkey : isMultiValued before.key = true)
      (hs : before.key ≠ Section.customIndustries.name) (hvalue : after.trim ≠ [])
      (hcommas : ∀ c ∈ after.trim, c = ',' ∨ isBlank c = true)

/-! ## Pieces of a node -/

theorem LineOf.isInfix (h : LineOf node line) : line <:+: node := by
  cases h with
  | plain _ => exact Text.trim_isInfix node
  | @numbered rest h =>
      obtain ⟨digits, -, -, hnode⟩ := h
      have hrest : rest <:+ node.trimStart := ⟨digits ++ [')'], by rw [hnode]; simp⟩
      have hstart : node.trimStart <:+ node := List.dropWhile_suffix _
      exact (Text.trim_isInfix rest).trans (hrest.trans hstart).isInfix

theorem LineOf.trim_eq_self (h : LineOf node line) : line.trim = line := by
  cases h <;> exact Text.trim_trim _

theorem Pair.isInfix (h : Pair line before after) : after.trim <:+: line := by
  have hafter : after <:+ line := ⟨before ++ [':'], by rw [h.1]; simp⟩
  exact (Text.trim_isInfix after).trans hafter.isInfix

theorem pair_unique {before' after' : Text} (h : Pair line before after)
    (h' : Pair line before' after') : before = before' ∧ after = after' := by
  have hcut := Text.cut?_eq_some_iff.mpr h
  rw [Text.cut?_eq_some_iff.mpr h'] at hcut
  obtain ⟨rfl, rfl⟩ := Prod.mk.inj (Option.some.inj hcut)
  exact ⟨rfl, rfl⟩

/-! ## Hollow nodes leave nothing -/

theorem ne_nil_of_isMultiValued {key : Text} (h : isMultiValued key = true) : key ≠ [] := by
  rintro rfl
  exact absurd h (by decide)

/-- What is pushed for a hollow node holds no value. -/
theorem reads_of_hollow (hnode : node.trim ≠ []) (h : Hollow p node) :
    ∃ key values, tidy values = []
      ∧ Reads p node ⟨p.current, none⟩ (.push p.current key values) := by
  have hstay : p.pending = none → p = ⟨p.current, none⟩ := fun hp => by rw [← hp]
  cases h with
  | @number rest hp h hrest =>
      refine ⟨linesKey, [[]], rfl, ?_⟩
      rw [← hstay hp]
      exact .line hnode hp (hrest ▸ .numbered h) (.unkeyed List.not_mem_nil)
  | @awaited key hp hkey hcommas =>
      refine ⟨key, valuesFor key node, ?_, .awaited hnode hp⟩
      rw [valuesFor_eq_nil_iff.mpr ⟨hkey, hcommas⟩]
      rfl
  | @keyed line before after hp hline h hkey hs hvalue hcommas =>
      refine ⟨before.key, valuesFor before.key after.trim, ?_, ?_⟩
      · rw [valuesFor_eq_nil_iff.mpr ⟨hkey, hcommas⟩]
        rfl
      · rw [← hstay hp]
        exact .line hnode hp hline (.keyed h (ne_nil_of_isMultiValued hkey) hs hvalue)

/-- A hollow node changes no value. -/
theorem feed_of_hollow (hnode : node.trim ≠ []) (h : Hollow c.position node) :
    (c.feed node).position = ⟨c.position.current, none⟩
      ∧ ∀ s key, (c.feed node).comments.values s key = c.comments.values s key := by
  obtain ⟨key, values, htidy, hread⟩ := reads_of_hollow hnode h
  have hfeed := feed_eq hread
  refine ⟨by rw [hfeed], fun s key' => ?_⟩
  rw [hfeed]
  show (c.comments.push c.position.current key values).values s key' = _
  rw [Comments.values_push]
  split
  · rename_i hat
    rw [Comments.pushValues_eq_foldl, htidy, hat.1, hat.2]
    rfl
  · rfl

theorem not_isHeader_of_hollow (h : Hollow p node) : ¬ IsHeader p node s := by
  rintro ⟨hnone, line', before', after', hline', hpair', hopens⟩
  cases h with
  | number hp h hrest =>
      have hnil : line' = [] := by
        rw [lineOf_iff.mp hline', trim_dropNumbering_of_numbered h, hrest]
      have hlength := congrArg List.length (hnil ▸ hpair'.1)
      simp at hlength
  | awaited hp hkey hcommas =>
      rw [hp] at hnone
      exact absurd hnone (Option.some_ne_none _)
  | keyed hp hline hpair hkey hs hvalue hcommas =>
      rw [lineOf_iff.mp hline, ← lineOf_iff.mp hline'] at hpair
      obtain ⟨rfl, rfl⟩ := pair_unique hpair hpair'
      cases hopens with
      | header _ _ hblank => exact hvalue hblank
      | custom hcustom => exact hs hcustom

/-! ## All others do -/

/-- A value in what is pushed for a node, if it is a piece of the node and not blank, accounts for
the node. -/
theorem accounted_of_push {key v : Text} {values : List Text}
    (h : Reads c.position node q (.push q.current key values)) (hv : v ∈ values)
    (hblank : v.trim ≠ []) (hwithin : v <:+: node) : Accounted c node := by
  have hfeed := feed_eq h
  refine Or.inr (Or.inr ⟨key, v.trim, ?_, hblank, Text.trim_trim v, ?_⟩)
  · rw [hfeed]
    show v.trim ∈ (c.comments.push q.current key values).values q.current key
    rw [Comments.values_push, if_pos ⟨rfl, rfl⟩]
    exact Comments.mem_pushValues.mpr (Or.inr (mem_tidy.mpr ⟨hblank, v, hv, rfl⟩))
  · exact (Text.trim_isInfix v).trans hwithin

/-- The values that a text holds for a key account for the node that the text is a piece of. -/
theorem accounted_of_valuesFor {key text : Text} (htext : text.trim ≠ []) (hwithin : text <:+: node)
    (hne : valuesFor key text ≠ [])
    (h : Reads c.position node q (.push q.current key (valuesFor key text))) :
    Accounted c node := by
  obtain ⟨v, hv⟩ := List.exists_mem_of_ne_nil _ hne
  obtain ⟨htrim, hpiece, -⟩ := mem_valuesFor hv
  refine accounted_of_push h hv ?_ (hpiece.trans hwithin)
  rw [htrim]
  exact ne_nil_of_mem_valuesFor htext hv

/-- A line that is kept as it is accounts for its node, unless it is empty. -/
theorem accounted_of_line (hnode : node.trim ≠ []) (hp : c.position.pending = none)
    (hline : LineOf node line) (hne : line ≠ [])
    (h : ReadsLine c.position line c.position (.push c.position.current linesKey [line])) :
    Accounted c node :=
  accounted_of_push (.line hnode hp hline h) List.mem_cons_self
    (by rw [hline.trim_eq_self]; exact hne) hline.isInfix

theorem accounted_of_not_hollow (hnode : node.trim ≠ []) (h : ¬ Hollow c.position node) :
    Accounted c node := by
  obtain ⟨q, e, hread⟩ := exists_reads c.position node
  have hfeed := feed_eq hread
  cases hread with
  | blank hblank => exact absurd hblank hnode
  | @awaited key _ hp =>
      refine accounted_of_valuesFor hnode (List.infix_refl node) (fun hnil => h ?_)
        (.awaited hnode hp)
      obtain ⟨hkey, hcommas⟩ := valuesFor_eq_nil_iff.mp hnil
      exact .awaited hp hkey hcommas
  | @line line _ _ _ hp hline hreadLine =>
      cases hreadLine with
      | unkeyed hcolon =>
          refine accounted_of_line hnode hp hline (fun hnil => h ?_) (.unkeyed hcolon)
          -- the node is not blank, so an empty line stands behind a number
          cases hline with
          | plain _ => exact absurd hnil hnode
          | numbered hnumber => exact .number hp hnumber hnil
      | @nameless before after hpair hkey =>
          have hne : line ≠ [] := by
            rw [hpair.1]
            simp
          exact accounted_of_line hnode hp hline hne (.nameless hpair hkey)
      | @opening s before after hpair hopens hvalue =>
          exact Or.inl ⟨s, ⟨hp, line, before, after, hline, hpair, hopens⟩, by rw [hfeed]⟩
      | @custom before after hpair hkey hvalue =>
          exact Or.inl ⟨_, ⟨hp, line, before, after, hline, hpair, .custom hkey⟩, by rw [hfeed]⟩
      | @keyed before after hpair hkey hs hvalue =>
          have hwithin : after.trim <:+: node := hpair.isInfix.trans hline.isInfix
          refine accounted_of_valuesFor (by rwa [Text.trim_trim]) hwithin (fun hnil => h ?_)
            (.line hnode hp hline (.keyed hpair hkey hs hvalue))
          obtain ⟨hmulti, hcommas⟩ := valuesFor_eq_nil_iff.mp hnil
          exact .keyed hp hline hpair hmulti hs hvalue hcommas
      | waiting _ _ _ _ => exact Or.inr (Or.inl ⟨_, by rw [hfeed]⟩)

/-- A hollow node is accounted for only by what was stored before. -/
theorem holdsPiece_of_hollow (hnode : node.trim ≠ []) (h : Hollow c.position node)
    (hacc : Accounted c node) : HoldsPiece c.comments c.position.current node := by
  obtain ⟨hpos, hvalues⟩ := feed_of_hollow hnode h
  rcases hacc with ⟨s, hheader, -⟩ | ⟨key, hkey⟩ | ⟨key, v, hv, hpiece⟩
  · exact absurd hheader (not_isHeader_of_hollow h)
  · rw [hpos] at hkey
    exact absurd hkey (Option.some_ne_none key).symm
  · rw [hvalues, hpos] at hv
    exact ⟨key, v, hv, hpiece⟩

/-- A value that was stored before is still there. -/
theorem accounted_of_holdsPiece (hnode : node.trim ≠ []) (h : Hollow c.position node)
    (hold : HoldsPiece c.comments c.position.current node) : Accounted c node := by
  obtain ⟨hpos, hvalues⟩ := feed_of_hollow hnode h
  obtain ⟨key, v, hv, hpiece⟩ := hold
  refine Or.inr (Or.inr ⟨key, v, ?_, hpiece⟩)
  rw [hvalues, hpos]
  exact hv

/-- **A node that is not blank is accounted for exactly if it is not hollow**, or if a piece of it
happens to be stored already. A hollow node, for its part, stores nothing and lets no key wait. -/
theorem accounted_iff_not_hollow (c : Classifier) (node : Text) (hnode : node.trim ≠ []) :
    (Accounted c node
        ↔ ¬ Hollow c.position node ∨ HoldsPiece c.comments c.position.current node)
      ∧ (Hollow c.position node →
          (c.feed node).position = ⟨c.position.current, none⟩
            ∧ ∀ s key, (c.feed node).comments.values s key = c.comments.values s key) := by
  refine ⟨⟨fun hacc => ?_, ?_⟩, feed_of_hollow hnode⟩
  · by_cases h : Hollow c.position node
    · exact Or.inr (holdsPiece_of_hollow hnode h hacc)
    · exact Or.inl h
  · intro h
    by_cases hhollow : Hollow c.position node
    · exact accounted_of_holdsPiece hnode hhollow (h.resolve_left fun hnot => hnot hhollow)
    · exact accounted_of_not_hollow hnode hhollow

/-- A key and its value, at the start. -/
theorem accounted_iff_not_hollow_at_start :
    Text.trim "Keywords: sales".toList ≠ [] ∧
      (Accounted {} "Keywords: sales".toList
        ↔ ¬ Hollow {} "Keywords: sales".toList ∨ HoldsPiece [] .root "Keywords: sales".toList) :=
  have hnode : Text.trim "Keywords: sales".toList ≠ [] := by decide
  ⟨hnode, (accounted_iff_not_hollow {} _ hnode).1⟩

/-- **A number with nothing behind it is dropped**: the node is not blank, and nothing accounts for
it. -/
theorem bare_number_not_accounted :
    Text.trim "1)".toList ≠ [] ∧ ¬ Accounted (afterCalls []) "1)".toList := by
  have hnode : Text.trim "1)".toList ≠ [] := by decide
  refine ⟨hnode, fun hacc => ?_⟩
  have hhollow : Hollow (afterCalls []).position "1)".toList :=
    .number rfl ⟨['1'], by decide, List.all_eq_true.mp rfl, rfl⟩ rfl
  obtain ⟨key, v, hv, -⟩ := holdsPiece_of_hollow hnode hhollow hacc
  exact List.not_mem_nil hv

end LeadScreen.Classifier
