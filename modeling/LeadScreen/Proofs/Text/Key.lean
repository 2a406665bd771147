import LeadScreen.Proofs.Text.Strip
import LeadScreen.Text.Key
import Mathlib.Data.List.Chain

set_option autoImplicit false

/-! # The normal form of a key

`Text.key` trims, lowers, spells out ampersands, turns each run of foreign characters into one
underscore and takes the underscores off the ends. Whatever the text, the outcome is in the normal
form `NormalKey`: letters and digits in groups, single underscores between them. On that form
each of the five passes is the identity, so taking the key of a key changes nothing.
-/

namespace LeadScreen

/-- **The normal form of a key**: key characters and underscores, no two underscores side by side
and none at the ends. The empty text is in normal form. -/
structure NormalKey (t : Text) : Prop where
  chars : ∀ c ∈ t, isKeyChar c = true ∨ c = '_'
  apart : t.IsChain fun a b => a = '_' → b ≠ '_'
  ends : t.Stripped (· == '_')

namespace Text

/-! ## Collapsing runs -/

section Collapse

variable {p : Char → Bool} {mark : Char} {t : Text}

theorem mem_collapseFrom {inRun : Bool} {c : Char} (h : c ∈ collapseFrom p mark inRun t) :
    c = mark ∨ (c ∈ t ∧ p c = false) := by
  induction t generalizing inRun with
  | nil => simp [collapseFrom] at h
  | cons d rest ih =>
      have hrest : ∀ {inRun : Bool}, c ∈ collapseFrom p mark inRun rest →
          c = mark ∨ (c ∈ d :: rest ∧ p c = false) := fun h =>
        (ih h).imp id fun hc => ⟨List.mem_cons_of_mem d hc.1, hc.2⟩
      unfold collapseFrom at h
      split at h
      · split at h
        · exact hrest h
        · rcases List.mem_cons.mp h with rfl | h
          · exact Or.inl rfl
          · exact hrest h
      · rename_i hd
        rcases List.mem_cons.mp h with rfl | h
        · exact Or.inr ⟨List.mem_cons_self, by simpa using hd⟩
        · exact hrest h

/-- No two marks are left side by side, and none at the start of what continues a run. -/
theorem isChain_collapseFrom (hmark : p mark = true) (inRun : Bool) (t : Text) :
    (collapseFrom p mark inRun t).IsChain (fun a b => a = mark → b ≠ mark)
      ∧ (inRun = true → ∀ c ∈ (collapseFrom p mark inRun t).head?, c ≠ mark) := by
  induction t generalizing inRun with
  | nil => exact ⟨.nil, fun _ c hc => by simp [collapseFrom] at hc⟩
  | cons d rest ih =>
      unfold collapseFrom
      by_cases hd : p d = true
      · rw [if_pos hd]
        obtain ⟨hchain, hhead⟩ := ih true
        cases inRun with
        | true => exact ⟨hchain, hhead⟩
        | false =>
            refine ⟨List.isChain_cons.mpr ⟨fun c hc _ => hhead rfl c hc, hchain⟩, ?_⟩
            exact fun h => Bool.noConfusion h
      · rw [if_neg hd]
        -- a character outside every run is not the mark, which satisfies `p`
        have hne : d ≠ mark := fun h => hd (h ▸ hmark)
        refine ⟨List.isChain_cons.mpr ⟨fun c _ h => absurd h hne, (ih false).1⟩, ?_⟩
        intro _ c hc
        obtain rfl : d = c := by simpa using hc
        exact hne

/-- Nothing collapses where every run is a single mark already. -/
theorem collapseFrom_eq_self {inRun : Bool} (hp : ∀ c ∈ t, p c = true → c = mark)
    (hchain : t.IsChain fun a b => a = mark → b ≠ mark)
    (hhead : inRun = true → ∀ c ∈ t.head?, c ≠ mark) : collapseFrom p mark inRun t = t := by
  induction t generalizing inRun with
  | nil => rfl
  | cons d rest ih =>
      obtain ⟨hnext, hrest⟩ := List.isChain_cons.mp hchain
      have hp' : ∀ c ∈ rest, p c = true → c = mark := fun c hc => hp c (List.mem_cons_of_mem d hc)
      unfold collapseFrom
      by_cases hd : p d = true
      · obtain rfl := hp d List.mem_cons_self hd
        have hrun : inRun = false := by
          cases inRun with
          | true => exact absurd rfl (hhead rfl d rfl)
          | false => rfl
        rw [if_pos hd, hrun, if_neg Bool.false_ne_true,
          ih hp' hrest fun _ c hc => hnext c hc rfl]
      · rw [if_neg hd, ih hp' hrest fun h => Bool.noConfusion h]

end Collapse

/-! ## Lower-casing what is lower case -/

theorem lowerAt_of_ascii {afterCased : Bool} {c : Char} {rest : Text} (h : c.toNat < 128) :
    lowerAt afterCased c rest = [c.toLower] := by
  have hsigma : c ≠ 'Σ' := by
    rintro rfl
    exact absurd h (by decide)
  have hdotted : c ≠ 'İ' := by
    rintro rfl
    exact absurd h (by decide)
  rw [lowerAt, if_neg hsigma, if_neg hdotted, lowerChar, if_pos h]

theorem lowerFrom_eq_self {afterCased : Bool} {t : Text}
    (h : ∀ c ∈ t, c.toNat < 128 ∧ c.toLower = c) : lowerFrom afterCased t = t := by
  induction t generalizing afterCased with
  | nil => rfl
  | cons c rest ih =>
      obtain ⟨hascii, hlower⟩ := h c List.mem_cons_self
      rw [lowerFrom, lowerAt_of_ascii hascii, hlower,
        ih fun d hd => h d (List.mem_cons_of_mem c hd), List.singleton_append]

theorem replace_eq_self {old : Char} {new t : Text} (h : old ∉ t) : replace old new t = t := by
  induction t with
  | nil => rfl
  | cons c rest ih =>
      have hc : c ≠ old := fun hc => h (hc ▸ List.mem_cons_self)
      have hrest : replace old new rest = rest := ih fun hm => h (List.mem_cons_of_mem c hm)
      rw [replace, List.flatMap_cons, if_neg hc]
      exact congrArg (c :: ·) hrest

end Text

/-! ## The key of a text -/

variable {t : Text} {c : Char}

/-- Above the space, no ASCII character is blank. -/
theorem isBlank_eq_false (hlo : 32 < c.toNat) (hhi : c.toNat < 128) : isBlank c = false := by
  have hwide : ∀ d ∈ wideBlanks, 128 ≤ d.toNat := by simp [wideBlanks]
  have hnot : c ∉ wideBlanks := fun hmem => absurd (hwide c hmem) (by omega)
  simp only [isBlank, Bool.or_eq_false_iff, Bool.and_eq_false_iff, decide_eq_false_iff_not,
    List.contains_eq_mem, hnot, not_false_eq_true, and_true]
  omega

/-- What the passes before the last two need to know of a character of a key. -/
theorem plain_of_isKeyChar (h : isKeyChar c = true ∨ c = '_') :
    c.toNat < 128 ∧ c.toLower = c ∧ isBlank c = false ∧ c ≠ '&' := by
  have hrange : (97 ≤ c.toNat ∧ c.toNat ≤ 122) ∨ (48 ≤ c.toNat ∧ c.toNat ≤ 57) ∨ c.toNat = 95 := by
    rcases h with h | rfl
    · simp only [isKeyChar, Bool.or_eq_true, Bool.and_eq_true, decide_eq_true_eq] at h
      rcases h with ⟨hlo, hhi⟩ | ⟨hlo, hhi⟩
      · exact Or.inl ⟨hlo, hhi⟩
      · exact Or.inr (Or.inl ⟨hlo, hhi⟩)
    · exact Or.inr (Or.inr rfl)
  refine ⟨by omega, ?_, isBlank_eq_false (by omega) (by omega), ?_⟩
  · refine dif_neg fun hupper => ?_
    have hlo : 65 ≤ c.toNat := hupper.1
    have hhi : c.toNat ≤ 90 := hupper.2
    omega
  · rintro rfl
    exact absurd hrange (by decide)

theorem normalKey_key (t : Text) : NormalKey t.key := by
  have hmem : ∀ c ∈ t.key, c ∈ Text.collapse (fun c => !isKeyChar c) '_' t.folded :=
    fun c hc => (Text.stripWhere_isInfix _ _).subset hc
  refine ⟨fun c hc => ?_, ?_, Text.stripped_stripWhere _ _⟩
  · rcases Text.mem_collapseFrom (hmem c hc) with rfl | ⟨-, hkey⟩
    · exact Or.inr rfl
    · exact Or.inl (by simpa using hkey)
  · obtain ⟨before, after, hsplit⟩ := Text.stripWhere_isInfix (· == '_')
      (Text.collapse (fun c => !isKeyChar c) '_' t.folded)
    have hchain : (Text.collapse (fun c => !isKeyChar c) '_' t.folded).IsChain
        fun a b => a = '_' → b ≠ '_' :=
      (Text.isChain_collapseFrom (by decide) false t.folded).1
    rw [← hsplit] at hchain
    exact hchain.left_of_append.right_of_append

namespace NormalKey

theorem folded_eq_self (h : NormalKey t) : t.folded = t := by
  have hplain : ∀ c ∈ t, c.toNat < 128 ∧ c.toLower = c ∧ isBlank c = false ∧ c ≠ '&' :=
    fun c hc => plain_of_isKeyChar (h.chars c hc)
  have htrim : t.trim = t := by
    refine Text.stripWhere_eq_self_iff.mpr ⟨fun c hc => ?_, fun c hc => ?_⟩
    · exact (hplain c (List.mem_of_mem_head? hc)).2.2.1
    · exact (hplain c (List.mem_of_mem_getLast? hc)).2.2.1
  have hlower : t.lower = t :=
    Text.lowerFrom_eq_self fun c hc => ⟨(hplain c hc).1, (hplain c hc).2.1⟩
  rw [Text.folded, htrim, hlower]
  exact Text.replace_eq_self fun hmem => (hplain '&' hmem).2.2.2 rfl

/-- A text in normal form is its own key. -/
theorem key_eq_self (h : NormalKey t) : t.key = t := by
  have hcollapse : Text.collapse (fun c => !isKeyChar c) '_' t = t := by
    refine Text.collapseFrom_eq_self (fun c hc hforeign => ?_) h.apart fun h => Bool.noConfusion h
    rcases h.chars c hc with hkey | hmark
    · rw [hkey] at hforeign
      exact Bool.noConfusion hforeign
    · exact hmark
  rw [Text.key, h.folded_eq_self, hcollapse]
  exact Text.stripWhere_eq_self_iff.mpr h.ends

/-- Characters of other kinds are in no key. -/
theorem not_mem (h : NormalKey t) (hc : isKeyChar c = false) (hne : c ≠ '_') : c ∉ t := by
  intro hmem
  rcases h.chars c hmem with hkey | rfl
  · rw [hc] at hkey
    cases hkey
  · exact hne rfl

end NormalKey

namespace Text

@[simp] theorem key_key (t : Text) : t.key.key = t.key :=
  (normalKey_key t).key_eq_self

/-- Blanks around a text do not show in its key. -/
@[simp] theorem key_trim (t : Text) : t.trim.key = t.key := by
  rw [key, folded, trim_trim]
  rfl

end Text

end LeadScreen
