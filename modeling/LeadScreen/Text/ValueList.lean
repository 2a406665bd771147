import LeadScreen.Text.Key

set_option autoImplicit false

/-!
# Lists of values

Some keys hold several values in one text, separated by commas. Lists of values keep the first of
equal members, in order.
-/

namespace LeadScreen

namespace Text

/-- The values of a comma-separated text: trimmed, without the empty ones. -/
def commaValues (t : Text) : List Text :=
  ((splitOn ',' t).map trim).filter fun value => !value.isEmpty

end Text

/-- The keys whose texts hold several values. -/
def multiValuedKeys : List Text :=
  ["keywords", "job_area", "comment"]

/-- Whether a key's text holds several values; every key about industries does. -/
def isMultiValued (key : Text) : Bool :=
  multiValuedKeys.elem key || Text.includes "industr" key

/-- Adds a value at the end unless the list holds it. -/
def pushNew {α : Type} [BEq α] (items : List α) (value : α) : List α :=
  if items.elem value then items else items ++ [value]

/-- The list without repetitions: of equal members the first stays. -/
def distinct {α : Type} [BEq α] (items : List α) : List α :=
  items.foldl pushNew []

/-- Pushing keeps what was there, in front. -/
theorem prefix_pushNew {α : Type} [BEq α] (items : List α) (value : α) :
    items <+: pushNew items value := by
  unfold pushNew
  split
  · exact List.prefix_refl _
  · exact List.prefix_append _ _

/-- A list without repetitions keeps none when a value is pushed. -/
theorem nodup_pushNew {α : Type} [BEq α] [LawfulBEq α] {items : List α} (h : items.Nodup)
    (value : α) : (pushNew items value).Nodup := by
  unfold pushNew
  split
  · exact h
  · rename_i hv
    have hv : value ∉ items := by simpa using hv
    rw [List.nodup_append]
    refine ⟨h, by simp, ?_⟩
    intro a ha b hb
    simp only [List.mem_singleton] at hb
    subst hb
    exact fun hab => hv (hab ▸ ha)

theorem mem_pushNew {α : Type} [BEq α] [LawfulBEq α] {items : List α} {value x : α} :
    x ∈ pushNew items value ↔ x ∈ items ∨ x = value := by
  unfold pushNew
  split
  · rename_i hv
    have hv : value ∈ items := by simpa using hv
    constructor
    · exact Or.inl
    · rintro (h | rfl)
      · exact h
      · exact hv
  · simp

end LeadScreen
