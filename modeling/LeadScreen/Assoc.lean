set_option autoImplicit false

/-!
# Association lists

Entries in the order in which their keys were first set. Setting a key again replaces its value and
keeps its place.
-/

namespace LeadScreen

/-- Keys with their values, in order of first entry. -/
abbrev Assoc (κ α : Type) := List (κ × α)

namespace Assoc

variable {κ α : Type} [DecidableEq κ]

def get? (k : κ) : Assoc κ α → Option α
  | [] => none
  | (k', v) :: rest => if k' = k then some v else get? k rest

/-- Changes the value of a key, given its value if it has one. -/
def alter (k : κ) (f : Option α → α) : Assoc κ α → Assoc κ α
  | [] => [(k, f none)]
  | (k', v) :: rest => if k' = k then (k', f (some v)) :: rest else (k', v) :: alter k f rest

def set (k : κ) (v : α) (a : Assoc κ α) : Assoc κ α :=
  a.alter k fun _ => v

@[simp] theorem get?_nil (k : κ) : get? k ([] : Assoc κ α) = none := rfl

theorem get?_alter_self (k : κ) (f : Option α → α) (a : Assoc κ α) :
    (a.alter k f).get? k = some (f (a.get? k)) := by
  induction a with
  | nil => simp [alter, get?]
  | cons entry rest ih =>
    obtain ⟨k', v⟩ := entry
    by_cases h : k' = k
    · simp [alter, get?, h]
    · simp [alter, get?, h, ih]

theorem get?_alter_of_ne {k k' : κ} (h : k' ≠ k) (f : Option α → α) (a : Assoc κ α) :
    (a.alter k f).get? k' = a.get? k' := by
  induction a with
  | nil => simp [alter, get?, Ne.symm h]
  | cons entry rest ih =>
    obtain ⟨k'', v⟩ := entry
    by_cases h' : k'' = k
    · subst h'
      simp [alter, get?, Ne.symm h]
    · by_cases h'' : k'' = k'
      · subst h''
        simp [alter, get?, h]
      · simp [alter, get?, h', h'', ih]

theorem get?_alter (k k' : κ) (f : Option α → α) (a : Assoc κ α) :
    (a.alter k f).get? k' = if k' = k then some (f (a.get? k)) else a.get? k' := by
  by_cases h : k' = k
  · rw [if_pos h, h, get?_alter_self]
  · rw [if_neg h, get?_alter_of_ne h]

theorem mem_of_get?_eq_some {k : κ} {v : α} {a : Assoc κ α} (h : a.get? k = some v) :
    (k, v) ∈ a := by
  induction a with
  | nil => simp at h
  | cons entry rest ih =>
    obtain ⟨k', v'⟩ := entry
    rw [get?] at h
    split at h
    · rename_i hk
      rw [hk, Option.some.inj h]
      exact List.mem_cons_self
    · exact List.mem_cons_of_mem _ (ih h)

theorem get?_eq_none_iff {k : κ} {a : Assoc κ α} : a.get? k = none ↔ k ∉ a.map (·.1) := by
  induction a with
  | nil => simp
  | cons entry rest ih =>
      obtain ⟨k', v'⟩ := entry
      rw [get?, List.map_cons, List.mem_cons, not_or]
      by_cases hk : k' = k
      · rw [if_pos hk]
        exact iff_of_false (Option.some_ne_none v') fun hnot => hnot.1 hk.symm
      · rw [if_neg hk, ih]
        exact ⟨fun hnot => ⟨Ne.symm hk, hnot⟩, fun hnot => hnot.2⟩

/-- The keys are what has a value. -/
theorem exists_get?_iff {k : κ} {a : Assoc κ α} : (∃ v, a.get? k = some v) ↔ k ∈ a.map (·.1) := by
  rw [← Option.ne_none_iff_exists', Ne, get?_eq_none_iff, Classical.not_not]

/-- Where no key is entered twice, every entry is found by its key. -/
theorem get?_eq_some_of_mem {k : κ} {v : α} {a : Assoc κ α} (ha : (a.map (·.1)).Nodup)
    (h : (k, v) ∈ a) : a.get? k = some v := by
  induction a with
  | nil => simp at h
  | cons entry rest ih =>
    obtain ⟨k', v'⟩ := entry
    obtain ⟨hnot, hrest⟩ := List.nodup_cons.mp ha
    rw [get?]
    rcases List.mem_cons.mp h with h | h
    · obtain ⟨rfl, rfl⟩ := Prod.mk.inj h
      exact if_pos rfl
    · have hk : k' ≠ k := fun hk => hnot (hk ▸ List.mem_map.mpr ⟨(k, v), h, rfl⟩)
      rw [if_neg hk]
      exact ih hrest h

/-- An entry after a change is an old one or that of the changed key. -/
theorem mem_alter {k k' : κ} {f : Option α → α} {v : α} {a : Assoc κ α}
    (h : (k', v) ∈ a.alter k f) : (k', v) ∈ a ∨ k' = k ∧ v = f (a.get? k) := by
  induction a with
  | nil => simpa [alter] using h
  | cons entry rest ih =>
    obtain ⟨k'', v'⟩ := entry
    rw [alter] at h
    rw [get?]
    split at h
    · rename_i hk
      rw [if_pos hk]
      rcases List.mem_cons.mp h with h | h
      · exact .inr ⟨(Prod.mk.inj h).1.trans hk, (Prod.mk.inj h).2⟩
      · exact .inl (List.mem_cons_of_mem _ h)
    · rename_i hk
      rw [if_neg hk]
      rcases List.mem_cons.mp h with h | h
      · exact .inl (h ▸ List.mem_cons_self)
      · rcases ih h with h | h
        · exact .inl (List.mem_cons_of_mem _ h)
        · exact .inr h

/-- A new key comes last; a known one stays where it is. -/
theorem keys_alter (k : κ) (f : Option α → α) (a : Assoc κ α) :
    (a.alter k f).map (·.1)
      = if k ∈ a.map (·.1) then a.map (·.1) else a.map (·.1) ++ [k] := by
  induction a with
  | nil => simp [alter]
  | cons entry rest ih =>
    obtain ⟨k', v⟩ := entry
    by_cases h : k' = k
    · simp [alter, h]
    · by_cases hr : k ∈ rest.map (·.1)
      · simp [alter, h, ih, hr]
      · simp only [alter, if_neg h, List.map_cons, ih, if_neg hr, List.mem_cons, Ne.symm h,
          false_or, List.cons_append]

/-- No key is entered twice. -/
theorem nodup_keys_alter {a : Assoc κ α} (h : (a.map (·.1)).Nodup) (k : κ) (f : Option α → α) :
    ((a.alter k f).map (·.1)).Nodup := by
  rw [keys_alter]
  split
  · exact h
  · rename_i hk
    rw [List.nodup_append]
    exact ⟨h, by simp, fun x hx y hy hxy =>
      hk (List.mem_singleton.1 hy ▸ hxy ▸ hx)⟩

/-- Changing a value to itself changes nothing. -/
theorem alter_eq_self {k : κ} {v : α} {a : Assoc κ α} {f : Option α → α}
    (h : a.get? k = some v) (hf : f (some v) = v) : a.alter k f = a := by
  induction a with
  | nil => simp at h
  | cons entry rest ih =>
    obtain ⟨k', v'⟩ := entry
    rw [get?] at h
    rw [alter]
    split at h
    · rename_i hk
      rw [if_pos hk, Option.some.inj h, hf]
    · rename_i hk
      rw [if_neg hk, ih h]

theorem get?_set_self (k : κ) (v : α) (a : Assoc κ α) : (a.set k v).get? k = some v :=
  get?_alter_self k _ a

theorem get?_set_of_ne {k k' : κ} (h : k' ≠ k) (v : α) (a : Assoc κ α) :
    (a.set k v).get? k' = a.get? k' :=
  get?_alter_of_ne h _ a

end Assoc

end LeadScreen
