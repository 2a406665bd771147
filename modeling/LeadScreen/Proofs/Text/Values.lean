import LeadScreen.Proofs.Text.Cut
import LeadScreen.Proofs.Text.Strip
import LeadScreen.Requisition.Classifier

set_option autoImplicit false

/-! # Values in a text, and lists of values

Three things happen to a value on its way into a list: the text that holds it is cut at its
commas, if the key asks for that (`valuesFor`), the pieces are trimmed and the empty ones dropped
(`tidy`), and each piece is pushed unless the list holds it already. Pushing many values is
appending them and erasing duplicates, which is how the lists are described from outside.
-/

namespace LeadScreen

/-! ## Comma-separated values -/

namespace Text

variable {t : Text}

/-- A value of a comma-separated text is a trimmed stretch of it that is not empty and holds no
comma. -/
theorem mem_commaValues {v : Text} (h : v ∈ commaValues t) :
    v ≠ [] ∧ v.trim = v ∧ ',' ∉ v ∧ v <:+: t := by
  obtain ⟨hmap, hne⟩ := List.mem_filter.mp h
  obtain ⟨piece, hpiece, rfl⟩ := List.mem_map.mp hmap
  refine ⟨by simpa using hne, trim_trim piece, ?_, ?_⟩
  · intro hcomma
    have hsep := not_of_mem_splitWhere hpiece (mem_of_mem_trim hcomma)
    simp at hsep
  · exact (trim_isInfix piece).trans (infix_of_mem_splitWhere hpiece)

/-- There is no value exactly in a text of commas and blanks. -/
theorem commaValues_eq_nil_iff : commaValues t = [] ↔ ∀ c ∈ t, c = ',' ∨ isBlank c = true := by
  have hpieces : commaValues t = [] ↔ ∀ piece ∈ splitOn ',' t, ∀ c ∈ piece, isBlank c = true := by
    simp only [commaValues, List.filter_eq_nil_iff, List.mem_map, forall_exists_index, and_imp,
      forall_apply_eq_imp_iff₂, Bool.not_eq_true, Bool.not_eq_false', List.isEmpty_iff,
      trim_eq_nil_iff, allBlank, List.all_eq_true]
  rw [hpieces]
  constructor
  · intro h c hc
    by_cases hcomma : c = ','
    · exact Or.inl hcomma
    · obtain ⟨piece, hpiece, hmem⟩ :=
        exists_mem_splitWhere_iff (p := (· == ',')).mpr ⟨hc, by simpa using hcomma⟩
      exact Or.inr (h piece hpiece c hmem)
  · intro h piece hpiece c hc
    obtain ⟨hmem, hne⟩ := exists_mem_splitWhere_iff.mp ⟨piece, hpiece, hc⟩
    rcases h c hmem with rfl | hblank
    · simp at hne
    · exact hblank

end Text

/-! ## The values under a key -/

variable {key text v : Text}

/-- A value that a key's text holds is a trimmed stretch of the text; it holds no comma if the key
has several values. -/
theorem mem_valuesFor (h : v ∈ valuesFor key text) :
    v.trim = v ∧ v <:+: text ∧ (isMultiValued key = true → ',' ∉ v) := by
  unfold valuesFor at h
  split at h
  · obtain ⟨-, htrim, hcomma, hinfix⟩ := Text.mem_commaValues h
    exact ⟨htrim, hinfix, fun _ => hcomma⟩
  · rename_i hmulti
    obtain rfl := List.mem_singleton.mp h
    exact ⟨Text.trim_trim text, Text.trim_isInfix text, fun hm => absurd hm hmulti⟩

theorem ne_nil_of_mem_valuesFor (htext : text.trim ≠ []) (h : v ∈ valuesFor key text) :
    v ≠ [] := by
  unfold valuesFor at h
  split at h
  · exact (Text.mem_commaValues h).1
  · rw [List.mem_singleton.mp h]
    exact htext

/-- Only a key with several values can be given none: by a text of commas and blanks. -/
theorem valuesFor_eq_nil_iff :
    valuesFor key text = []
      ↔ isMultiValued key = true ∧ ∀ c ∈ text, c = ',' ∨ isBlank c = true := by
  unfold valuesFor
  split
  · rename_i hmulti
    rw [Text.commaValues_eq_nil_iff]
    exact ⟨fun h => ⟨hmulti, h⟩, fun h => h.2⟩
  · rename_i hmulti
    exact ⟨fun h => absurd h (List.cons_ne_nil _ _), fun h => absurd h.1 hmulti⟩

/-! ## Pushing values -/

section Push

variable {α : Type} [BEq α] [LawfulBEq α]

theorem pushNew_eraseDups (items : List α) (value : α) :
    pushNew items.eraseDups value = (items ++ [value]).eraseDups := by
  rw [List.eraseDups_append, pushNew]
  by_cases h : value ∈ items
  · rw [if_pos (by simpa using h)]
    simp [List.removeAll, h]
  · rw [if_neg (by simpa using h)]
    simp [List.removeAll, h, List.eraseDups_cons]

/-- Pushing values one by one is appending them all and keeping the first of equal members. -/
theorem foldl_pushNew_eraseDups (items values : List α) :
    values.foldl pushNew items.eraseDups = (items ++ values).eraseDups := by
  induction values generalizing items with
  | nil => rw [List.foldl_nil, List.append_nil]
  | cons value values ih =>
      rw [List.foldl_cons, pushNew_eraseDups, ih, List.append_assoc, List.singleton_append]

theorem distinct_eq_eraseDups (items : List α) : distinct items = items.eraseDups :=
  foldl_pushNew_eraseDups [] items

theorem eraseDups_eq_nil_iff {items : List α} : items.eraseDups = [] ↔ items = [] := by
  rw [List.eq_nil_iff_forall_not_mem, List.eq_nil_iff_forall_not_mem]
  exact forall_congr' fun x => not_congr List.mem_eraseDups

theorem eraseDups_append_of_subset {items more : List α} (h : ∀ x ∈ more, x ∈ items) :
    (items ++ more).eraseDups = items.eraseDups := by
  have hnone : more.removeAll items = [] := by
    refine List.filter_eq_nil_iff.mpr fun x hx => ?_
    simp [h x hx]
  rw [List.eraseDups_append, hnone, List.eraseDups_nil, List.append_nil]

theorem eraseDups_append_congr {items others : List α} (h : items.eraseDups = others.eraseDups)
    (more : List α) : (items ++ more).eraseDups = (others ++ more).eraseDups := by
  rw [← foldl_pushNew_eraseDups, h, foldl_pushNew_eraseDups]

theorem eraseDups_pushNew (items : List α) (value : α) :
    (pushNew items value).eraseDups = (items ++ [value]).eraseDups := by
  unfold pushNew
  split
  · rename_i hheld
    exact (eraseDups_append_of_subset fun x hx =>
      List.mem_singleton.mp hx ▸ List.elem_iff.mp hheld).symm
  · rfl

/-- Whether equal members are left out when they are pushed or afterwards makes no difference. -/
theorem eraseDups_foldl_pushNew (items values : List α) :
    (values.foldl pushNew items).eraseDups = (items ++ values).eraseDups := by
  induction values generalizing items with
  | nil => rw [List.foldl_nil, List.append_nil]
  | cons value values ih =>
      rw [List.foldl_cons, ih, eraseDups_append_congr (eraseDups_pushNew items value),
        List.append_assoc, List.singleton_append]

/-- What comes of repeated members is lost among what came of the first. -/
theorem eraseDups_flatMap_eraseDups {β : Type} [BEq β] [LawfulBEq β] (f : α → List β)
    (items : List α) : (items.eraseDups.flatMap f).eraseDups = (items.flatMap f).eraseDups := by
  -- from the end, where a member is either new or one of those before it
  induction items using List.reverseRecOn with
  | nil => rfl
  | append_singleton items x ih =>
      rw [List.flatMap_append, List.flatMap_singleton]
      by_cases hx : x ∈ items
      · have hsame : ∀ y ∈ [x], y ∈ items := fun y hy => List.mem_singleton.mp hy ▸ hx
        have hold : ∀ y ∈ f x, y ∈ items.flatMap f := fun y hy =>
          List.mem_flatMap.mpr ⟨x, hx, hy⟩
        rw [eraseDups_append_of_subset hsame, ih, eraseDups_append_of_subset hold]
      · have hnew : (items ++ [x]).eraseDups = items.eraseDups ++ [x] := by
          rw [← pushNew_eraseDups, pushNew, if_neg (by simpa using hx)]
        rw [hnew, List.flatMap_append, List.flatMap_singleton]
        exact eraseDups_append_congr ih (f x)

theorem nodup_foldl_pushNew {items : List α} (h : items.Nodup) (values : List α) :
    (values.foldl pushNew items).Nodup := by
  induction values generalizing items with
  | nil => exact h
  | cons value values ih => exact ih (nodup_pushNew h value)

theorem mem_foldl_pushNew {items values : List α} {x : α} :
    x ∈ values.foldl pushNew items ↔ x ∈ items ∨ x ∈ values := by
  induction values generalizing items with
  | nil => simp
  | cons value values ih =>
      rw [List.foldl_cons, ih, mem_pushNew, List.mem_cons, or_assoc]

end Push

/-- The values as they are stored: trimmed, without empty ones. -/
def tidy (values : List Text) : List Text :=
  (values.map Text.trim).filter fun value => !value.isEmpty

theorem tidy_append (values more : List Text) :
    tidy (values ++ more) = tidy values ++ tidy more := by
  rw [tidy, List.map_append, List.filter_append]
  rfl

theorem mem_tidy {values : List Text} : v ∈ tidy values ↔ v ≠ [] ∧ ∃ w ∈ values, w.trim = v := by
  rw [tidy, List.mem_filter, List.mem_map]
  constructor
  · rintro ⟨hw, hne⟩
    exact ⟨by simpa using hne, hw⟩
  · rintro ⟨hne, hw⟩
    exact ⟨hw, by simpa using hne⟩

namespace Comments

variable {items values : List Text}

theorem pushValues_eq_foldl (items values : List Text) :
    pushValues items values = (tidy values).foldl pushNew items := rfl

theorem mem_pushValues : v ∈ pushValues items values ↔ v ∈ items ∨ v ∈ tidy values := by
  rw [pushValues_eq_foldl, mem_foldl_pushNew]

/-- What was in a list stays in front. -/
theorem prefix_pushValues (items values : List Text) : items <+: pushValues items values := by
  rw [pushValues_eq_foldl]
  induction tidy values generalizing items with
  | nil => exact List.prefix_refl items
  | cons v vs ih => exact (prefix_pushNew items v).trans (ih (pushNew items v))

/-- Values that a list holds already are not pushed again. -/
theorem pushValues_eq_self (h : ∀ v ∈ tidy values, v ∈ items) : pushValues items values = items := by
  rw [pushValues_eq_foldl]
  generalize tidy values = vs at h
  induction vs with
  | nil => rfl
  | cons v vs ih =>
      have hv : items.elem v = true := List.elem_iff.mpr (h v List.mem_cons_self)
      rw [List.foldl_cons, pushNew, if_pos hv]
      exact ih fun w hw => h w (List.mem_cons_of_mem v hw)

theorem nodup_pushValues (h : items.Nodup) (values : List Text) :
    (pushValues items values).Nodup :=
  nodup_foldl_pushNew h (tidy values)

end Comments

end LeadScreen
