import LeadScreen.Proofs.Text.Cut
import LeadScreen.Proofs.Text.Key
import LeadScreen.Requisition.Classifier

set_option autoImplicit false

/-! # The rules for comment nodes

What a node means is laid down by rules, one for each kind of node: a blank one, the value of a
key that waits for it, a line without a key, a section header, a key with a value and a key
without one. `Reads p node q e` says that a node, read at position `p`, has effect `e` and leaves
the classifier at `q`; the comments do not occur in it. `Classifier.step` follows the rules, and
since they leave no choice (`reads_iff`), an argument about a node is a case split on its rule.
-/

namespace LeadScreen.Classifier

/-! ## Lines -/

/-- The node begins with a number and a closing parenthesis, with `rest` behind them. -/
def Numbered (node rest : Text) : Prop :=
  ∃ digits, digits ≠ [] ∧ (∀ c ∈ digits, isDigit c = true)
    ∧ node.trimStart = digits ++ ')' :: rest

/-- The line that a node holds: the node without its number, if it has one, trimmed. -/
inductive LineOf (node : Text) : Text → Prop where
  | numbered {rest : Text} (h : Numbered node rest) : LineOf node rest.trim
  | plain (h : ∀ rest, ¬ Numbered node rest) : LineOf node node.trim

/-- The line has a colon, and the first one stands between `before` and `after`. -/
def Pair (line before after : Text) : Prop :=
  line = before ++ ':' :: after ∧ ':' ∉ before

/-- A key, with nothing behind it or anything, that starts a section. -/
inductive Opens : Section → Text → Text → Prop where
  | header {s : Section} {before after : Text} (hs : s = .titles ∨ s = .industry)
      (hkey : before.key = s.name) (hvalue : after.trim = []) : Opens s before after
  | custom {before after : Text} (hkey : before.key = Section.customIndustries.name) :
      Opens .customIndustries before after

/-! ## The rules -/

/-- **The rules for a line** that is read while no key waits for its value. -/
inductive ReadsLine (p : Position) (line : Text) : Position → Effect → Prop where
  /-- A line without a colon is kept as it is. -/
  | unkeyed (h : ':' ∉ line) : ReadsLine p line p (.push p.current linesKey [line])
  /-- So is a line whose first colon has no key before it. -/
  | nameless {before after : Text} (h : Pair line before after) (hkey : before.key = []) :
      ReadsLine p line p (.push p.current linesKey [line])
  /-- A header without a value opens its section. -/
  | opening {s : Section} {before after : Text} (h : Pair line before after)
      (hs : Opens s before after) (hvalue : after.trim = []) :
      ReadsLine p line ⟨s, none⟩ (.openSection s)
  /-- A header of the custom industries may have values behind it, which go to its section. -/
  | custom {before after : Text} (h : Pair line before after)
      (hkey : before.key = Section.customIndustries.name) (hvalue : after.trim ≠ []) :
      ReadsLine p line ⟨.customIndustries, none⟩
        (.push .customIndustries before.key (valuesFor before.key after.trim))
  /-- Any other key takes the value behind it. -/
  | keyed {before after : Text} (h : Pair line before after) (hkey : before.key ≠ [])
      (hs : before.key ≠ Section.customIndustries.name) (hvalue : after.trim ≠ []) :
      ReadsLine p line p (.push p.current before.key (valuesFor before.key after.trim))
  /-- Any other key without a value waits for one. -/
  | waiting {before after : Text} (h : Pair line before after) (hkey : before.key ≠ [])
      (hs : ∀ s, ¬ Opens s before after) (hvalue : after.trim = []) :
      ReadsLine p line ⟨p.current, some before.key⟩ (.openSection p.current)

/-- **The rules for a node.** -/
inductive Reads (p : Position) (node : Text) : Position → Effect → Prop where
  /-- A blank node takes the wait from a key, and does nothing else. -/
  | blank (hnode : node.trim = []) : Reads p node ⟨p.current, none⟩ .none
  /-- A node behind a key that waits is its value as a whole. -/
  | awaited {key : Text} (hnode : node.trim ≠ []) (hp : p.pending = some key) :
      Reads p node ⟨p.current, none⟩ (.push p.current key (valuesFor key node))
  /-- Any other node is read as a line. -/
  | line {line : Text} {q : Position} {e : Effect} (hnode : node.trim ≠ [])
      (hp : p.pending = none) (hline : LineOf node line) (h : ReadsLine p line q e) :
      Reads p node q e

/-! ## The step follows the rules -/

variable {p q : Position} {node line rest before after : Text} {e : Effect}

theorem numbered_iff_dropWhile :
    Numbered node rest ↔ node.trimStart.takeWhile isDigit ≠ []
      ∧ node.trimStart.dropWhile isDigit = ')' :: rest := by
  constructor
  · rintro ⟨digits, hne, hdigits, hnode⟩
    have hparen : ∀ c ∈ (')' :: rest).head?, isDigit c = false := fun c hc => by
      obtain rfl := Option.some.inj hc
      decide
    obtain ⟨hrun, hrest⟩ := Text.run_iff.mpr ⟨hnode, hdigits, hparen⟩
    exact ⟨hrun ▸ hne, hrest⟩
  · rintro ⟨hne, hrest⟩
    obtain ⟨hnode, hdigits, -⟩ := Text.run_iff.mp ⟨rfl, hrest⟩
    exact ⟨_, hne, hdigits, hnode⟩

theorem trim_dropNumbering_of_numbered (h : Numbered node rest) :
    (dropNumbering node).trim = rest.trim := by
  obtain ⟨hdigits, hrest⟩ := numbered_iff_dropWhile.mp h
  have hne : (node.trimStart.takeWhile isDigit).isEmpty = false := by simpa using hdigits
  unfold dropNumbering
  simp only [hrest, hne, Bool.false_eq_true, if_false, Text.trim_trimStart]

theorem dropNumbering_of_not_numbered (h : ∀ rest, ¬ Numbered node rest) :
    dropNumbering node = node := by
  unfold dropNumbering
  dsimp only
  split
  · rename_i rest hrest
    -- what is dropped up to a parenthesis is a number, unless there is nothing to drop
    have hdigits : node.trimStart.takeWhile isDigit = [] := by
      by_contra hne
      exact h rest (numbered_iff_dropWhile.mpr ⟨hne, hrest⟩)
    rw [hdigits]
    rfl
  · rfl

/-- Every node holds exactly one line. -/
theorem lineOf_iff : LineOf node line ↔ line = (dropNumbering node).trim := by
  constructor
  · intro h
    cases h with
    | numbered h => exact (trim_dropNumbering_of_numbered h).symm
    | plain h => rw [dropNumbering_of_not_numbered h]
  · rintro rfl
    by_cases h : ∃ rest, Numbered node rest
    · obtain ⟨rest, h⟩ := h
      rw [trim_dropNumbering_of_numbered h]
      exact .numbered h
    · have hnot : ∀ rest, ¬ Numbered node rest := fun rest hr => h ⟨rest, hr⟩
      rw [dropNumbering_of_not_numbered hnot]
      exact .plain hnot

theorem splitAtColon?_of_pair (h : Pair line before after) :
    splitAtColon? line = some (before.trim, after.trim) := by
  rw [splitAtColon?, Text.cut?_eq_some_iff.mpr h]
  rfl

theorem splitAtColon?_eq_none_iff : splitAtColon? line = none ↔ ':' ∉ line := by
  rw [splitAtColon?, Option.map_eq_none_iff, Text.cut?_eq_none_iff]

theorem exists_pair (h : ':' ∈ line) : ∃ before after, Pair line before after := by
  cases hcut : line.cut? ':' with
  | none => exact absurd h (Text.cut?_eq_none_iff.mp hcut)
  | some parts => exact ⟨parts.1, parts.2, Text.cut?_eq_some_iff.mp hcut⟩

theorem step_keyed {key value : Text} (hkey : key ≠ []) (hvalue : value.trim ≠ []) :
    stepKeyed p key value
      = (⟨p.current, none⟩, .push p.current key (valuesFor key value)) := by
  have hblank : value.allBlank ≠ true := fun h => hvalue (Text.trim_eq_nil_iff.mpr h)
  rw [stepKeyed, if_neg (by simpa using hkey), if_neg hblank]

theorem step_waiting {key value : Text} (hkey : key ≠ []) (hvalue : value.trim = []) :
    stepKeyed p key value = (⟨p.current, some key⟩, .openSection p.current) := by
  rw [stepKeyed, if_neg (by simpa using hkey), if_pos (Text.trim_eq_nil_iff.mp hvalue)]

/-- What the step does with a line whose first colon has a key before it. -/
theorem stepLine_of_pair (h : Pair line before after) (hkey : before.key ≠ []) :
    stepLine p line =
      if before.key = Section.customIndustries.name then
        if after.trim = [] then (⟨.customIndustries, none⟩, .openSection .customIndustries)
        else stepKeyed ⟨.customIndustries, none⟩ before.key after.trim
      else
        match Section.ofHeader? before.key with
        | some s =>
          if after.trim = [] then (⟨s, none⟩, .openSection s)
          else stepKeyed p before.key after.trim
        | none => stepKeyed p before.key after.trim := by
  unfold stepLine
  rw [splitAtColon?_of_pair h]
  dsimp only
  rw [Text.key_trim, if_neg (by simpa using hkey)]
  cases Section.ofHeader? before.key <;> simp only [List.isEmpty_iff]

/-- A key that opens no section is read where the classifier stands. -/
theorem stepLine_of_not_opens (h : Pair line before after) (hkey : before.key ≠ [])
    (hs : before.key ≠ Section.customIndustries.name)
    (hopens : after.trim = [] → ∀ s, ¬ Opens s before after) :
    stepLine p line = stepKeyed p before.key after.trim := by
  rw [stepLine_of_pair h hkey, if_neg hs]
  cases hheader : Section.ofHeader? before.key with
  | none => rfl
  | some s =>
      obtain ⟨hsec, hname⟩ := Section.ofHeader?_eq_some_iff.mp hheader
      have hvalue : after.trim ≠ [] := fun hv => hopens hv s (.header hsec hname hv)
      exact if_neg hvalue

theorem stepLine_eq (hp : p.pending = none) (h : ReadsLine p line q e) :
    stepLine p line = (q, e) := by
  have hstay : (⟨p.current, none⟩ : Position) = p := by rw [← hp]
  cases h with
  | unkeyed h =>
      unfold stepLine
      rw [splitAtColon?_eq_none_iff.mpr h]
  | nameless h hkey =>
      unfold stepLine
      rw [splitAtColon?_of_pair h]
      simp only [Text.key_trim, List.isEmpty_iff, if_pos hkey]
  | @opening s before after h hs hvalue =>
      cases hs with
      | header hs hkey _ =>
          have hcustom : before.key ≠ Section.customIndustries.name := by
            rw [hkey]
            rcases hs with rfl | rfl <;> decide
          rw [stepLine_of_pair h (hkey ▸ s.name_ne_nil), if_neg hcustom,
            Section.ofHeader?_eq_some_iff.mpr ⟨hs, hkey⟩]
          exact if_pos hvalue
      | custom hkey =>
          rw [stepLine_of_pair h (hkey ▸ Section.name_ne_nil _), if_pos hkey, if_pos hvalue]
  | @custom before after h hkey hvalue =>
      have hne : before.key ≠ [] := hkey ▸ Section.name_ne_nil _
      rw [stepLine_of_pair h hne, if_pos hkey, if_neg hvalue,
        step_keyed hne (by simpa using hvalue)]
  | @keyed before after h hkey hs hvalue =>
      rw [stepLine_of_not_opens h hkey hs fun hv => absurd hv hvalue,
        step_keyed hkey (by simpa using hvalue), hstay]
  | @waiting before after h hkey hs hvalue =>
      have hcustom : before.key ≠ Section.customIndustries.name := fun hc => hs _ (.custom hc)
      rw [stepLine_of_not_opens h hkey hcustom fun _ => hs,
        step_waiting hkey (by simpa using hvalue)]

/-- Some rule reads every line. -/
theorem exists_readsLine (p : Position) (line : Text) : ∃ q e, ReadsLine p line q e := by
  by_cases hcolon : ':' ∈ line
  · obtain ⟨before, after, h⟩ := exists_pair hcolon
    by_cases hkey : before.key = []
    · exact ⟨_, _, .nameless h hkey⟩
    · by_cases hvalue : after.trim = []
      · by_cases hs : ∃ s, Opens s before after
        · obtain ⟨s, hs⟩ := hs
          exact ⟨_, _, .opening h hs hvalue⟩
        · exact ⟨_, _, .waiting h hkey (fun s hs' => hs ⟨s, hs'⟩) hvalue⟩
      · by_cases hcustom : before.key = Section.customIndustries.name
        · exact ⟨_, _, .custom h hcustom hvalue⟩
        · exact ⟨_, _, .keyed h hkey hcustom hvalue⟩
  · exact ⟨_, _, .unkeyed hcolon⟩

theorem step_eq (h : Reads p node q e) : step p node = (q, e) := by
  cases h with
  | blank hnode => rw [step, if_pos (Text.trim_eq_nil_iff.mp hnode)]
  | awaited hnode hp =>
      rw [step, if_neg fun hb => hnode (Text.trim_eq_nil_iff.mpr hb), hp]
  | line hnode hp hline h =>
      rw [step, if_neg fun hb => hnode (Text.trim_eq_nil_iff.mpr hb), hp, ← lineOf_iff.mp hline]
      exact stepLine_eq hp h

/-- Some rule reads every node. -/
theorem exists_reads (p : Position) (node : Text) : ∃ q e, Reads p node q e := by
  by_cases hnode : node.trim = []
  · exact ⟨_, _, .blank hnode⟩
  · cases hp : p.pending with
    | some key => exact ⟨_, _, .awaited hnode hp⟩
    | none =>
        obtain ⟨q, e, h⟩ := exists_readsLine p (dropNumbering node).trim
        exact ⟨q, e, .line hnode hp (lineOf_iff.mpr rfl) h⟩

/-- **The step follows the rules**, and they leave it no choice. -/
theorem reads_iff : Reads p node q e ↔ step p node = (q, e) := by
  constructor
  · exact step_eq
  · intro hstep
    obtain ⟨q', e', h⟩ := exists_reads p node
    rw [step_eq h] at hstep
    obtain ⟨rfl, rfl⟩ := Prod.mk.inj hstep
    exact h

/-- What a fed node does, by its rule. -/
theorem feed_eq {c : Classifier} (h : Reads c.position node q e) :
    c.feed node = ⟨q, e.apply c.comments⟩ := by
  rw [feed, reads_iff.mp h]
  rfl

/-! ## Blank nodes -/

/-- Blank nodes change no comments. -/
theorem comments_run_of_blank {nodes : List Text} (c : Classifier)
    (h : ∀ node ∈ nodes, node.trim = []) : (run c nodes).comments = c.comments := by
  induction nodes generalizing c with
  | nil => rfl
  | cons node nodes ih =>
      have hfeed := feed_eq (c := c) (.blank (h node List.mem_cons_self))
      have hrest := ih (c.feed node) fun n hn => h n (List.mem_cons_of_mem node hn)
      rw [hfeed] at hrest
      rw [run, List.foldl_cons, hfeed]
      exact hrest

/-- So those at the end may be left out: nothing is left for them to separate. -/
theorem classify_append_of_blank (nodes : List Text) {blanks : List Text}
    (h : ∀ node ∈ blanks, node.trim = []) : classify (nodes ++ blanks) = classify nodes := by
  rw [classify, run, List.foldl_append]
  exact comments_run_of_blank (run {} nodes) h

end LeadScreen.Classifier
