import LeadScreen.Proofs.Classifier.Comments
import LeadScreen.Proofs.Classifier.Rules

set_option autoImplicit false

/-! # What holds of every classifier

A classifier is fed nodes and given keys with text behind them, in any order (`Call`). Whatever
the calls, the classifier stays well formed (`WellFormed`): it stands in a section that is open,
the key that waits is a key in normal form, and every list is kept under such a key, without
repetitions, empty values or blanks at the ends of a value.

The conditions depend on each other, so they are kept together. `Proper` says once what a call can
do at a position, with what it guarantees of the keys and values; that a proper outcome leaves a
classifier well formed is then one case for each kind of effect.
-/

namespace LeadScreen.Classifier

variable {c : Classifier} {p q : Position} {e : Effect} {s : Section}
  {node line key text : Text} {items old values : List Text}

/-! ## Calls -/

inductive Call where
  /-- A node is fed. -/
  | feed (node : Text)
  /-- A key is given with the text behind it. -/
  | addKeyed (key value : Text)

def Call.apply (c : Classifier) : Call → Classifier
  | .feed node => c.feed node
  | .addKeyed key value => c.addKeyed key value

def afterCalls (calls : List Call) : Classifier :=
  calls.foldl Call.apply {}

/-! ## The invariant -/

def sectionNames : List Text :=
  ["root", "titles", "industry", "custom_industries"]

/-- A key in normal form: its own key, and not empty. -/
def IsKey (key : Text) : Prop :=
  key ≠ [] ∧ key.key = key

/-- A list is tidy for its key: no value twice, none empty or with blanks at its ends, and none
with a comma where the key has several values. -/
structure Tidy (key : Text) (items : List Text) : Prop where
  nodup : items.Nodup
  ne_nil : ∀ v ∈ items, v ≠ []
  trimmed : ∀ v ∈ items, v.trim = v
  no_comma : isMultiValued key = true → ∀ v ∈ items, ',' ∉ v

/-- **The invariant of a classifier.** -/
structure WellFormed (c : Classifier) : Prop where
  current_named : c.position.current.name ∈ sectionNames
  sections_named : ∀ s, c.comments.IsOpen s → s.name ∈ sectionNames
  current_open : c.position.current ≠ .root → c.comments.IsOpen c.position.current
  pending_key : ∀ key, c.position.pending = some key → IsKey key
  pending_open : c.position.pending ≠ none → c.comments.IsOpen c.position.current
  unique : c.comments.Unique
  keys : ∀ s key items, c.comments.Lists s key items → IsKey key
  tidy : ∀ s key items, c.comments.Lists s key items → Tidy key items
  filled : ∀ s key items, c.comments.Lists s key items → items = [] → key = linesKey

/-! ## What a call can do -/

/-- Values that may be pushed under a key: without commas if the key has several, and not all
blank unless the key is that of plain lines. -/
structure Storable (key : Text) (values : List Text) : Prop where
  no_comma : isMultiValued key = true → ∀ v ∈ values, ',' ∉ v
  not_blank : values ≠ [] → key = linesKey ∨ ∃ v ∈ values, v.trim ≠ []

/-- **What a call can do** at a position: where it leads, and to which effect. -/
inductive Proper (p : Position) : Position → Effect → Prop where
  /-- Nothing at all. -/
  | stay : Proper p p .none
  /-- It takes the wait from a key. -/
  | drop : Proper p ⟨p.current, none⟩ .none
  /-- It goes to a section and opens it. -/
  | opening (s : Section) : Proper p ⟨s, none⟩ (.openSection s)
  /-- It lets a key wait, with its section open. -/
  | waiting {key : Text} (hkey : IsKey key) :
      Proper p ⟨p.current, some key⟩ (.openSection p.current)
  /-- It goes to a section and pushes values there. -/
  | pushing (s : Section) {key : Text} {values : List Text} (hkey : IsKey key)
      (hvalues : Storable key values) : Proper p ⟨s, none⟩ (.push s key values)

theorem isKey_key (h : text.key ≠ []) : IsKey text.key :=
  ⟨h, Text.key_key text⟩

theorem isKey_linesKey : IsKey linesKey := by
  have hchars : ∀ c ∈ linesKey, isKeyChar c = true := List.all_eq_true.mp (by decide)
  have hends : Text.Stripped (· == '_') linesKey := by simp [Text.Stripped, linesKey]
  refine ⟨by decide, NormalKey.key_eq_self ⟨fun c hc => Or.inl (hchars c hc), ?_, hends⟩⟩
  simp [linesKey]

theorem storable_valuesFor (htext : text.trim ≠ []) : Storable key (valuesFor key text) := by
  refine ⟨fun hmulti v hv => (mem_valuesFor hv).2.2 hmulti, fun hne => Or.inr ?_⟩
  obtain ⟨v, hv⟩ := List.exists_mem_of_ne_nil _ hne
  refine ⟨v, hv, ?_⟩
  rw [(mem_valuesFor hv).1]
  exact ne_nil_of_mem_valuesFor htext hv

theorem storable_line (line : Text) : Storable linesKey [line] :=
  ⟨fun hmulti => absurd hmulti (by decide), fun _ => Or.inl rfl⟩

theorem proper_of_readsLine (hp : p.pending = none) (h : ReadsLine p line q e) : Proper p q e := by
  have hstay : p = ⟨p.current, none⟩ := by rw [← hp]
  cases h with
  | unkeyed _ =>
      rw [hstay]
      exact .pushing p.current isKey_linesKey (storable_line line)
  | nameless _ _ =>
      rw [hstay]
      exact .pushing p.current isKey_linesKey (storable_line line)
  | opening _ _ _ => exact .opening _
  | @custom before after _ hkey hvalue =>
      exact .pushing _ (isKey_key (hkey ▸ Section.name_ne_nil _))
        (storable_valuesFor (by rwa [Text.trim_trim]))
  | keyed _ hkey _ hvalue =>
      rw [hstay]
      exact .pushing p.current (isKey_key hkey) (storable_valuesFor (by rwa [Text.trim_trim]))
  | waiting _ hkey _ _ => exact .waiting (isKey_key hkey)

theorem proper_of_reads (hp : ∀ key, p.pending = some key → IsKey key) (h : Reads p node q e) :
    Proper p q e := by
  cases h with
  | blank _ => exact .drop
  | awaited hnode hkey => exact .pushing p.current (hp _ hkey) (storable_valuesFor hnode)
  | line _ hnone _ h => exact proper_of_readsLine hnone h

theorem proper_stepKeyed (p : Position) (key value : Text) :
    Proper p (stepKeyed p key.key value).1 (stepKeyed p key.key value).2 := by
  by_cases hkey : key.key = []
  · have hstep : stepKeyed p key.key value = (p, .none) := by
      rw [stepKeyed, if_pos (by rw [hkey]; rfl)]
    rw [hstep]
    exact .stay
  · by_cases hvalue : value.trim = []
    · rw [step_waiting hkey hvalue]
      exact .waiting (isKey_key hkey)
    · rw [step_keyed hkey hvalue]
      exact .pushing p.current (isKey_key hkey) (storable_valuesFor hvalue)

/-! ## The invariant is kept -/

theorem Tidy.pushValues (hold : Tidy key old) (hvalues : Storable key values) :
    Tidy key (Comments.pushValues old values) := by
  -- a value is an old one, or a pushed one that was trimmed and is not empty
  refine ⟨Comments.nodup_pushValues hold.nodup values, fun v hv => ?_, fun v hv => ?_,
    fun hmulti v hv => ?_⟩
  · rcases Comments.mem_pushValues.mp hv with hv | hv
    · exact hold.ne_nil v hv
    · exact (mem_tidy.mp hv).1
  · rcases Comments.mem_pushValues.mp hv with hv | hv
    · exact hold.trimmed v hv
    · obtain ⟨-, w, -, rfl⟩ := mem_tidy.mp hv
      exact Text.trim_trim w
  · rcases Comments.mem_pushValues.mp hv with hv | hv
    · exact hold.no_comma hmulti v hv
    · obtain ⟨-, w, hw, rfl⟩ := mem_tidy.mp hv
      exact fun hcomma => hvalues.no_comma hmulti w hw (Text.mem_of_mem_trim hcomma)

theorem tidy_nil (key : Text) : Tidy key [] :=
  ⟨List.nodup_nil, by simp, by simp, by simp⟩

theorem ne_nil_of_storable (hvalues : Storable key values) (hne : values ≠ [])
    (hkey : key ≠ linesKey) :
    Comments.pushValues old values ≠ [] := by
  rcases hvalues.not_blank hne with h | ⟨v, hv, hblank⟩
  · exact absurd h hkey
  · have hmem := mem_tidy.mpr ⟨hblank, v, hv, rfl⟩
    exact List.ne_nil_of_mem (Comments.mem_pushValues.mpr (Or.inr hmem))

theorem name_mem_sectionNames (s : Section) : s.name ∈ sectionNames := by
  cases s <;> decide

theorem wellFormed_fresh : WellFormed {} where
  current_named := name_mem_sectionNames _
  sections_named := fun s _ => name_mem_sectionNames s
  current_open := fun h => absurd rfl h
  pending_key := fun _ h => by simp at h
  pending_open := fun h => absurd rfl h
  unique := Comments.Unique.nil
  keys := fun _ _ _ ⟨_, h, _⟩ => absurd h List.not_mem_nil
  tidy := fun _ _ _ ⟨_, h, _⟩ => absurd h List.not_mem_nil
  filled := fun _ _ _ ⟨_, h, _⟩ => absurd h List.not_mem_nil

/-- What is read under a key is tidy, be it a list or nothing. -/
theorem WellFormed.tidy_values (hc : WellFormed c) (s : Section) (key : Text) :
    Tidy key (c.comments.values s key) := by
  by_cases h : c.comments.values s key = []
  · rw [h]
    exact tidy_nil key
  · exact hc.tidy s key _ (Comments.lists_values h)

/-- Opening the section where the classifier goes keeps it well formed. -/
theorem WellFormed.openSection (hc : WellFormed c) (s : Section) {pending : Option Text}
    (hpending : ∀ key, pending = some key → IsKey key) :
    WellFormed ⟨⟨s, pending⟩, c.comments.openSection s⟩ where
  current_named := name_mem_sectionNames _
  sections_named := fun s _ => name_mem_sectionNames s
  current_open := fun _ => Comments.isOpen_openSection.mpr (Or.inl rfl)
  pending_key := hpending
  pending_open := fun _ => Comments.isOpen_openSection.mpr (Or.inl rfl)
  unique := hc.unique.openSection s
  keys := fun s' key items h => hc.keys s' key items (Comments.lists_of_openSection h)
  tidy := fun s' key items h => hc.tidy s' key items (Comments.lists_of_openSection h)
  filled := fun s' key items h => hc.filled s' key items (Comments.lists_of_openSection h)

/-- So does pushing values there. -/
theorem WellFormed.push (hc : WellFormed c) (s : Section) (hkey : IsKey key)
    (hvalues : Storable key values) :
    WellFormed ⟨⟨s, none⟩, c.comments.push s key values⟩ where
  current_named := name_mem_sectionNames _
  sections_named := fun s _ => name_mem_sectionNames s
  current_open := fun _ => Comments.isOpen_push.mpr (Or.inl rfl)
  pending_key := fun _ h => by simp at h
  pending_open := fun h => absurd rfl h
  unique := hc.unique.push s key values
  keys := by
    intro s' key' items h
    rcases Comments.lists_of_push h with h | ⟨-, -, rfl, -⟩
    · exact hc.keys s' key' items h
    · exact hkey
  tidy := by
    intro s' key' items h
    rcases Comments.lists_of_push h with h | ⟨-, -, rfl, rfl⟩
    · exact hc.tidy s' key' items h
    · exact (hc.tidy_values s key').pushValues hvalues
  filled := by
    intro s' key' items h hnil
    rcases Comments.lists_of_push h with h | ⟨hne, -, rfl, rfl⟩
    · exact hc.filled s' key' items h hnil
    · by_contra hlines
      exact ne_nil_of_storable hvalues hne hlines hnil

theorem WellFormed.move (hc : WellFormed c) (h : Proper c.position q e) :
    WellFormed (c.move (q, e)) := by
  cases h with
  | stay => exact hc
  | drop =>
      exact { hc with
        pending_key := fun _ h => by simp [Classifier.move] at h
        pending_open := fun h => absurd rfl h }
  | opening s => exact hc.openSection s fun _ h => by simp at h
  | waiting hkey => exact hc.openSection _ fun _ h => Option.some.inj h ▸ hkey
  | pushing s hkey hvalues => exact hc.push s hkey hvalues

theorem WellFormed.call (hc : WellFormed c) (call : Call) : WellFormed (call.apply c) := by
  cases call with
  | feed node =>
      exact hc.move (proper_of_reads hc.pending_key (reads_iff.mpr rfl))
  | addKeyed key value =>
      exact hc.move (proper_stepKeyed c.position key value)

/-- **The invariant holds after any calls** of a fresh classifier. -/
theorem wellFormed_afterCalls (calls : List Call) : WellFormed (afterCalls calls) := by
  have key : ∀ c : Classifier, WellFormed c → WellFormed (calls.foldl Call.apply c) := by
    induction calls with
    | nil => exact fun c hc => hc
    | cons call calls ih => exact fun c hc => ih (call.apply c) (hc.call call)
  exact key {} wellFormed_fresh

end LeadScreen.Classifier
