import LeadScreen.Proofs.Text.Values

set_option autoImplicit false

/-! # Comments as a table of lists

Comments are looked at in two ways. `Comments.values` reads a list by section and key and gives
the empty list where there is none; `Comments.Lists` says which lists are stored, empty ones
included. In between stands the law that no section and no key is entered twice (`Comments.Unique`):
then what is stored is what is read. Opening a section and pushing values are described in both
ways, and for the sections that are open. Either way comments grow (`Comments.Extends`): no section
is closed, and what stands in a list stays at its front.
-/

namespace LeadScreen.Comments

variable {c d e : Comments} {s s' : Section} {key key' : Text} {items values : List Text}

def IsOpen (c : Comments) (s : Section) : Prop :=
  s ∈ c.map (·.1)

/-- The list stands under the section and the key. -/
def Lists (c : Comments) (s : Section) (key : Text) (items : List Text) : Prop :=
  ∃ bucket, (s, bucket) ∈ c ∧ (key, items) ∈ bucket

/-- No section is entered twice, and no key within a section. -/
structure Unique (c : Comments) : Prop where
  sections : (c.map (·.1)).Nodup
  keys : ∀ s bucket, (s, bucket) ∈ c → (bucket.map (·.1)).Nodup

/-! ## Reading -/

theorem values_of_lists (hc : c.Unique) (h : c.Lists s key items) : c.values s key = items := by
  obtain ⟨bucket, hbucket, hitems⟩ := h
  have hs : c.get? s = some bucket := Assoc.get?_eq_some_of_mem hc.sections hbucket
  have hk : Assoc.get? key bucket = some items :=
    Assoc.get?_eq_some_of_mem (hc.keys s bucket hbucket) hitems
  rw [values, Comments.bucket, hs, Option.getD_some, hk, Option.getD_some]

/-- What is read is a stored list, unless there is none. -/
theorem lists_values (h : c.values s key ≠ []) : c.Lists s key (c.values s key) := by
  cases hs : c.get? s with
  | none => exact absurd (by rw [values, bucket, hs]; rfl) h
  | some b =>
      have hb : c.bucket s = b := by rw [bucket, hs]; rfl
      cases hk : Assoc.get? key b with
      | none => exact absurd (by rw [values, hb, hk]; rfl) h
      | some items =>
          rw [values, hb, hk]
          exact ⟨b, Assoc.mem_of_get?_eq_some hs, Assoc.mem_of_get?_eq_some hk⟩

/-! ## Opening a section -/

theorem bucket_alter (c : Comments) (s s' : Section) (f : Option Bucket → Bucket) :
    bucket (c.alter s f) s' = if s' = s then f (c.get? s) else c.bucket s' := by
  rw [bucket, Assoc.get?_alter]
  split <;> rfl

theorem bucket_openSection (c : Comments) (s s' : Section) :
    (c.openSection s).bucket s' = c.bucket s' := by
  rw [openSection, bucket_alter]
  split
  · rename_i h
    rw [h]
    rfl
  · rfl

theorem values_openSection (c : Comments) (s s' : Section) (key : Text) :
    (c.openSection s).values s' key = c.values s' key := by
  rw [values, bucket_openSection]
  rfl

theorem isOpen_alter {f : Option Bucket → Bucket} :
    IsOpen (c.alter s f) s' ↔ s' = s ∨ c.IsOpen s' := by
  rw [IsOpen, Assoc.keys_alter]
  split
  · rename_i h
    constructor
    · exact Or.inr
    · rintro (rfl | h')
      · exact h
      · exact h'
  · rw [List.mem_append, List.mem_singleton, or_comm]
    rfl

theorem isOpen_openSection : (c.openSection s).IsOpen s' ↔ s' = s ∨ c.IsOpen s' :=
  isOpen_alter

/-- Nothing stands in a section that is just open. -/
theorem lists_of_openSection (h : (c.openSection s).Lists s' key items) :
    c.Lists s' key items := by
  obtain ⟨bucket, hbucket, hitems⟩ := h
  rcases Assoc.mem_alter hbucket with hold | ⟨rfl, rfl⟩
  · exact ⟨bucket, hold, hitems⟩
  · cases hs : c.get? s' with
    | none => simp [hs] at hitems
    | some b => exact ⟨b, Assoc.mem_of_get?_eq_some hs, by simpa [hs] using hitems⟩

theorem Unique.alter (hc : c.Unique) (s : Section) {f : Option Bucket → Bucket}
    (hf : ((f (c.get? s)).map (·.1)).Nodup) : Unique (c.alter s f) := by
  refine ⟨Assoc.nodup_keys_alter hc.sections s f, fun s' bucket hbucket => ?_⟩
  rcases Assoc.mem_alter hbucket with hold | ⟨rfl, rfl⟩
  · exact hc.keys s' bucket hold
  · exact hf

theorem Unique.nodup_bucket (hc : c.Unique) (s : Section) : ((c.bucket s).map (·.1)).Nodup := by
  cases hs : c.get? s with
  | none => simp [bucket, hs]
  | some b =>
      rw [bucket, hs]
      exact hc.keys s b (Assoc.mem_of_get?_eq_some hs)

theorem Unique.openSection (hc : c.Unique) (s : Section) : (c.openSection s).Unique :=
  hc.alter s (hc.nodup_bucket s)

/-! ## Pushing values -/

theorem pushValues_nil (items : List Text) : pushValues items [] = items := rfl

/-- Pushing changes the one list that it pushes to. -/
theorem values_push (c : Comments) (s s' : Section) (key key' : Text) (values : List Text) :
    (c.push s key values).values s' key'
      = if s' = s ∧ key' = key then pushValues (c.values s key) values else c.values s' key' := by
  unfold push
  split
  · -- without values, pushing opens the section and that is all
    rename_i hnone
    rw [values_openSection, List.isEmpty_iff.mp hnone, pushValues_nil]
    split
    · rename_i h
      rw [h.1, h.2]
    · rfl
  · rw [Comments.values, bucket_alter]
    by_cases hs : s' = s
    · rw [if_pos hs, Assoc.get?_alter]
      by_cases hk : key' = key
      · rw [if_pos hk, if_pos ⟨hs, hk⟩]
        rfl
      · rw [if_neg hk, if_neg fun h => hk h.2, hs]
        rfl
    · rw [if_neg hs, if_neg fun h => hs h.1]
      rfl

theorem isOpen_push : (c.push s key values).IsOpen s' ↔ s' = s ∨ c.IsOpen s' := by
  unfold push
  split
  · exact isOpen_openSection
  · exact isOpen_alter

/-- A list that stands after values were pushed is an old one, or theirs. -/
theorem lists_of_push (h : (c.push s key values).Lists s' key' items) :
    c.Lists s' key' items
      ∨ values ≠ [] ∧ s' = s ∧ key' = key ∧ items = pushValues (c.values s key) values := by
  unfold push at h
  split at h
  · exact Or.inl (lists_of_openSection h)
  · rename_i hvalues
    have hne : values ≠ [] := fun hn => hvalues (by rw [hn]; rfl)
    obtain ⟨bucket, hbucket, hitems⟩ := h
    rcases Assoc.mem_alter hbucket with hold | ⟨rfl, rfl⟩
    · exact Or.inl ⟨bucket, hold, hitems⟩
    · rcases Assoc.mem_alter hitems with hold | ⟨rfl, rfl⟩
      · cases hs : c.get? s' with
        | none => simp [hs] at hold
        | some b =>
            exact Or.inl ⟨b, Assoc.mem_of_get?_eq_some hs, by simpa [hs] using hold⟩
      · exact Or.inr ⟨hne, rfl, rfl, rfl⟩

theorem Unique.push (hc : c.Unique) (s : Section) (key : Text) (values : List Text) :
    (c.push s key values).Unique := by
  unfold Comments.push
  split
  · exact hc.openSection s
  · exact hc.alter s (Assoc.nodup_keys_alter (hc.nodup_bucket s) key _)

theorem Unique.nil : Unique [] :=
  ⟨List.nodup_nil, fun _ _ h => absurd h List.not_mem_nil⟩

theorem Unique.apply (hc : c.Unique) (e : Classifier.Effect) : (e.apply c).Unique := by
  cases e with
  | none => exact hc
  | openSection s => exact hc.openSection s
  | push s key values => exact hc.push s key values

/-! ## Comments grow -/

/-- Every section of the one is a section of the other, and every list of the one is the front of
a list of the other. -/
def Extends (c d : Comments) : Prop :=
  ∀ s old, c.get? s = some old → ∃ new, d.get? s = some new
    ∧ ∀ key items, Assoc.get? key old = some items →
        ∃ more, Assoc.get? key new = some more ∧ items <+: more

theorem Extends.refl (c : Comments) : c.Extends c :=
  fun _ old hold => ⟨old, hold, fun _ items hitems => ⟨items, hitems, List.prefix_refl items⟩⟩

theorem Extends.trans (hcd : c.Extends d) (hde : d.Extends e) : c.Extends e := by
  intro s old hold
  obtain ⟨mid, hmid, hfront⟩ := hcd s old hold
  obtain ⟨new, hnew, hfront'⟩ := hde s mid hmid
  refine ⟨new, hnew, fun key items hitems => ?_⟩
  obtain ⟨more, hmore, hprefix⟩ := hfront key items hitems
  obtain ⟨most, hmost, hprefix'⟩ := hfront' key more hmore
  exact ⟨most, hmost, hprefix.trans hprefix'⟩

theorem extends_alter {f : Option Bucket → Bucket}
    (hf : ∀ old, c.get? s = some old → ∀ key items, Assoc.get? key old = some items →
      ∃ more, Assoc.get? key (f (some old)) = some more ∧ items <+: more) :
    c.Extends (c.alter s f) := by
  intro s' old hold
  rw [Assoc.get?_alter]
  by_cases hs : s' = s
  · rw [hs] at hold
    rw [if_pos hs, hold]
    exact ⟨f (some old), rfl, hf old hold⟩
  · rw [if_neg hs]
    exact Extends.refl c s' old hold

theorem extends_openSection (c : Comments) (s : Section) : c.Extends (c.openSection s) :=
  extends_alter fun _ _ _ items hitems => ⟨items, hitems, List.prefix_refl items⟩

theorem extends_push (c : Comments) (s : Section) (key : Text) (values : List Text) :
    c.Extends (c.push s key values) := by
  unfold push
  split
  · exact extends_openSection c s
  · refine extends_alter fun old _ key' items hitems => ?_
    rw [Option.getD_some, Assoc.get?_alter]
    by_cases hkey : key' = key
    · subst hkey
      rw [if_pos rfl, hitems]
      exact ⟨_, rfl, prefix_pushValues items values⟩
    · rw [if_neg hkey]
      exact ⟨items, hitems, List.prefix_refl items⟩

end LeadScreen.Comments
