import LeadScreen.Proofs.Requisition.Refusal
import LeadScreen.Proofs.Text.Caseless
import LeadScreen.Proofs.Text.Words

set_option autoImplicit false

/-! # The marker of comments

A requisition is split at its first marker. A marker is spelled in many ways (`IsMarker`), and what
stands before it may end as markers begin; but a marker has one bar, with which it begins, so that
none begins in what stands before and ends behind (`splitAtMarker_append`). So the terms of a
requisition are those of the text before the marker, the comments those of the text behind it, and
neither bears on the other (`read_at_marker`).
-/

namespace LeadScreen.Requisition

open Text

variable {word spelled t a b m rest behind : Text} {c letter : Char}

/-! ## Words in any case -/

def Spells (word spelled : Text) : Prop :=
  List.Forall₂ (fun letter c => matchesLetter letter c = true) word spelled

/-- What a word is spelled with is no blank and no bar, if neither is in the word. -/
theorem solid_of_matchesLetter (hsolid : isBlank letter = false) (hbar : letter ≠ '|')
    (h : matchesLetter letter c = true) : isBlank c = false ∧ c ≠ '|' := by
  simp only [matchesLetter, Bool.or_eq_true, Bool.and_eq_true, beq_iff_eq] at h
  rcases h with (hlower | ⟨-, rfl⟩) | ⟨-, rfl | rfl⟩
  · constructor
    · by_contra hblank
      rw [Bool.not_eq_false] at hblank
      rw [CaselessClass.blanks.kept c hblank] at hlower
      rw [← hlower, hblank] at hsolid
      cases hsolid
    · rintro rfl
      exact hbar hlower.symm
  all_goals decide

theorem Spells.solid (hword : ∀ letter ∈ word, isBlank letter = false ∧ letter ≠ '|')
    (h : Spells word spelled) : ∀ c ∈ spelled, isBlank c = false ∧ c ≠ '|' := by
  induction h with
  | nil => exact nofun
  | cons hmatch _ ih =>
      obtain ⟨hsolid, hbar⟩ := hword _ List.mem_cons_self
      intro c hc
      rcases List.mem_cons.mp hc with rfl | hc
      · exact solid_of_matchesLetter hsolid hbar hmatch
      · exact ih (fun letter hletter => hword letter (List.mem_cons_of_mem _ hletter)) c hc

/-- A text starts with a word exactly if it starts with a spelling of it. -/
theorem afterWord?_eq_some_iff : afterWord? word t = some rest
    ↔ ∃ spelled, Spells word spelled ∧ t = spelled ++ rest := by
  induction word generalizing t with
  | nil =>
      rw [afterWord?, Option.some.injEq]
      constructor
      · intro h
        exact ⟨[], .nil, h⟩
      · rintro ⟨spelled, hspells, rfl⟩
        cases hspells
        rfl
  | cons letter word ih =>
      cases t with
      | nil =>
          refine iff_of_false (fun hsome => by cases hsome) ?_
          rintro ⟨spelled, hspells, hempty⟩
          obtain ⟨rfl, -⟩ := List.append_eq_nil_iff.mp hempty.symm
          cases hspells
      | cons c t =>
          rw [afterWord?]
          constructor
          · intro h
            split at h
            · rename_i hmatch
              obtain ⟨spelled, hspells, rfl⟩ := ih.mp h
              exact ⟨c :: spelled, .cons hmatch hspells, rfl⟩
            · cases h
          · rintro ⟨spelled, hspells, hcons⟩
            cases hspells with
            | cons hmatch hspells =>
                obtain ⟨rfl, rfl⟩ := List.cons.inj hcons
                rw [if_pos hmatch]
                exact ih.mpr ⟨_, hspells, rfl⟩

/-! ## Markers -/

/-- **A marker of comments**: a bar, the word *comments* in any case and a colon, with blanks
between them or not. -/
inductive IsMarker : Text → Prop where
  | intro {gap spelled gap' : Text} (hgap : ∀ c ∈ gap, isBlank c = true)
      (hspells : Spells "comments" spelled) (hgap' : ∀ c ∈ gap', isBlank c = true) :
      IsMarker ('|' :: (gap ++ (spelled ++ (gap' ++ [':']))))

def Markerless (t : Text) : Prop :=
  ∀ m, IsMarker m → ¬ m <:+: t

theorem solid_comments : ∀ letter ∈ "comments".toList, isBlank letter = false ∧ letter ≠ '|' := by
  have hall : ("comments".toList.all fun letter => !isBlank letter && letter != '|') = true := by
    decide
  intro letter hletter
  simpa using List.all_eq_true.mp hall letter hletter

/-- A marker has one bar, with which it begins. -/
theorem IsMarker.exists_eq_cons (hm : IsMarker m) : ∃ rest, m = '|' :: rest ∧ '|' ∉ rest := by
  cases hm with
  | @intro gap spelled gap' hgap hspells hgap' =>
      have hblank : ∀ {blanks : Text}, (∀ c ∈ blanks, isBlank c = true) → '|' ∉ blanks :=
        fun h => not_mem_of_blank (by decide) h
      have hword : '|' ∉ spelled := fun hmem => (hspells.solid solid_comments '|' hmem).2 rfl
      have hcolon : '|' ∉ [':'] := by decide
      exact ⟨_, rfl, List.not_mem_append (hblank hgap)
        (List.not_mem_append hword (List.not_mem_append (hblank hgap') hcolon))⟩

/-- Blanks are dropped up to a text that does not begin with one. -/
theorem trimStart_append {blanks : Text} (h : ∀ c ∈ blanks, isBlank c = true)
    (hrest : ∀ c ∈ rest.head?, isBlank c = false) : trimStart (blanks ++ rest) = rest := by
  rw [trimStart, List.dropWhile_append_of_pos h, dropWhile_eq_self hrest]

theorem exists_trimStart_eq (t : Text) :
    ∃ blanks : Text, (∀ c ∈ blanks, isBlank c = true) ∧ t = blanks ++ trimStart t :=
  ⟨t.takeWhile isBlank, fun _ hc => List.all_eq_true.mp List.all_takeWhile _ hc,
    List.takeWhile_append_dropWhile.symm⟩

/-- **A text starts with a marker** exactly if one is found there, and what is found behind it is
what stands there. -/
theorem afterMarker?_eq_some_iff :
    afterMarker? t = some behind ↔ ∃ m, IsMarker m ∧ t = m ++ behind := by
  constructor
  · intro h
    unfold afterMarker? at h
    split at h
    · rename_i rest
      split at h
      · rename_i behind' hword
        obtain rfl := Option.some.inj h
        obtain ⟨after, hafter, hcolon⟩ := Option.map_eq_some_iff.mp hword
        obtain ⟨spelled, hspells, hrest⟩ := afterWord?_eq_some_iff.mp hafter
        obtain ⟨gap, hgap, hsplit⟩ := exists_trimStart_eq rest
        obtain ⟨gap', hgap', hsplit'⟩ := exists_trimStart_eq after
        refine ⟨_, .intro hgap hspells hgap', ?_⟩
        rw [hsplit, hrest, hsplit', hcolon]
        simp only [List.append_assoc, List.cons_append, List.nil_append]
      · cases h
    · cases h
  · rintro ⟨m, hm, rfl⟩
    cases hm with
    | @intro gap spelled gap' hgap hspells hgap' =>
        -- blanks are dropped up to the word and up to the colon, and neither begins with one
        have hhead : ∀ c ∈ (spelled ++ (gap' ++ ':' :: behind)).head?, isBlank c = false := by
          cases hspells with
          | cons hmatch hspells =>
              intro c hc
              obtain rfl := Option.some.inj hc
              exact (solid_of_matchesLetter (by decide) (by decide) hmatch).1
        have hword : afterWord? "comments" (trimStart (gap ++ (spelled ++ (gap' ++ ':' :: behind))))
            = some (gap' ++ ':' :: behind) := by
          rw [trimStart_append hgap hhead]
          exact afterWord?_eq_some_iff.mpr ⟨spelled, hspells, rfl⟩
        have hcolon : trimStart (gap' ++ ':' :: behind) = ':' :: behind :=
          trimStart_append hgap' fun c hc => Option.some.inj hc ▸ by decide
        simp only [List.cons_append, List.append_assoc, List.nil_append, afterMarker?, hword,
          Option.map_some, hcolon]

/-! ## The first marker -/

theorem afterMarker?_eq_none_iff : afterMarker? t = none ↔ ∀ m, IsMarker m → ¬ m <+: t := by
  rw [Option.eq_none_iff_forall_ne_some]
  constructor
  · rintro h m hm ⟨behind, rfl⟩
    exact h behind (afterMarker?_eq_some_iff.mpr ⟨m, hm, rfl⟩)
  · intro h behind hsome
    obtain ⟨m, hm, rfl⟩ := afterMarker?_eq_some_iff.mp hsome
    exact h m hm (List.prefix_append m behind)

theorem markerless_nil : Markerless [] := by
  intro m hm hinfix
  obtain ⟨rest, rfl, -⟩ := hm.exists_eq_cons
  cases List.infix_nil.mp hinfix

/-- There is no marker without a bar. -/
theorem markerless_of_not_mem (h : '|' ∉ t) : Markerless t := by
  intro m hm hfound
  obtain ⟨rest, rfl, -⟩ := hm.exists_eq_cons
  exact h (hfound.subset List.mem_cons_self)

/-- A text has no marker exactly if it does not begin with one and has none further on. -/
theorem markerless_cons_iff :
    Markerless (c :: t) ↔ afterMarker? (c :: t) = none ∧ Markerless t := by
  rw [afterMarker?_eq_none_iff, Markerless, Markerless, ← forall₂_and]
  refine forall₂_congr fun m _ => ?_
  rw [List.infix_cons_iff, not_or]

/-- No marker begins in a text without one and ends behind it, in a marker that follows: its bar
would not be the first. -/
theorem afterMarker?_append_eq_none (ha : Markerless (c :: a)) (hm : IsMarker m) (b : Text) :
    afterMarker? (c :: a ++ (m ++ b)) = none := by
  refine afterMarker?_eq_none_iff.mpr fun other hother hpre => ?_
  obtain ⟨behind, hbehind⟩ := hpre
  rcases List.append_eq_append_iff.mp hbehind with ⟨after, hinside, -⟩ | ⟨left, hleft, hmarker⟩
  · exact ha other hother (hinside ▸ (List.prefix_append other after).isInfix)
  · cases left with
    | nil =>
        rw [List.append_nil] at hleft
        exact ha other hother (hleft ▸ List.infix_rfl)
    | cons d left =>
        -- what is left begins as the marker that follows does
        obtain ⟨rest, rfl, -⟩ := hm.exists_eq_cons
        obtain ⟨rest', hcons, hbar⟩ := hother.exists_eq_cons
        have hd : d = '|' := by
          simpa using (List.cons.inj hmarker).1.symm
        rw [hcons, List.cons_append] at hleft
        apply hbar
        rw [(List.cons.inj hleft).2, hd]
        exact List.mem_append_right _ List.mem_cons_self

theorem splitAtMarker_of_none (h : afterMarker? (c :: t) = none) :
    splitAtMarker (c :: t) = (c :: (splitAtMarker t).1, (splitAtMarker t).2) := by
  rw [splitAtMarker, h]

/-- **A text without a marker is not split.** -/
theorem splitAtMarker_of_markerless (ha : Markerless a) : splitAtMarker a = (a, none) := by
  induction a with
  | nil => rfl
  | cons c a ih =>
      obtain ⟨hnone, hrest⟩ := markerless_cons_iff.mp ha
      rw [splitAtMarker_of_none hnone, ih hrest]

/-- **A text is split at its first marker.** -/
theorem splitAtMarker_append (ha : Markerless a) (hm : IsMarker m) (b : Text) :
    splitAtMarker (a ++ (m ++ b)) = (a, some b) := by
  induction a with
  | nil =>
      have hfound : afterMarker? (m ++ b) = some b := afterMarker?_eq_some_iff.mpr ⟨m, hm, rfl⟩
      obtain ⟨rest, rfl, -⟩ := hm.exists_eq_cons
      rw [List.nil_append]
      rw [List.cons_append] at hfound ⊢
      rw [splitAtMarker, hfound]
  | cons c a ih =>
      have hnone := afterMarker?_append_eq_none ha hm b
      rw [List.cons_append] at hnone ⊢
      rw [splitAtMarker_of_none hnone, ih (markerless_cons_iff.mp ha).2]

/-- Every text with a marker has a first one. -/
theorem exists_first_marker (h : ¬ Markerless t) :
    ∃ a m b, Markerless a ∧ IsMarker m ∧ t = a ++ (m ++ b) := by
  induction t with
  | nil => exact absurd markerless_nil h
  | cons c t ih =>
      cases hstart : afterMarker? (c :: t) with
      | some behind =>
          obtain ⟨m, hm, hsplit⟩ := afterMarker?_eq_some_iff.mp hstart
          exact ⟨[], m, behind, markerless_nil, hm, hsplit⟩
      | none =>
          have hrest : ¬ Markerless t := fun hrest => h (markerless_cons_iff.mpr ⟨hstart, hrest⟩)
          obtain ⟨a, m, b, ha, hm, rfl⟩ := ih hrest
          refine ⟨c :: a, m, b, markerless_cons_iff.mpr ⟨?_, ha⟩, hm, rfl⟩
          -- a marker at the start of the part is one at the start of the text
          rw [afterMarker?_eq_none_iff] at hstart ⊢
          exact fun other hother hpre =>
            hstart other hother (hpre.trans (List.prefix_append (c :: a) (m ++ b)))

/-- Whether there is a marker can be told from the split. -/
theorem markerless_iff : Markerless t ↔ (splitAtMarker t).2 = none := by
  constructor
  · intro h
    rw [splitAtMarker_of_markerless h]
  · intro hnone
    by_contra h
    obtain ⟨a, m, b, ha, hm, rfl⟩ := exists_first_marker h
    rw [splitAtMarker_append ha hm] at hnone
    cases hnone

instance (t : Text) : Decidable (Markerless t) :=
  decidable_of_iff _ markerless_iff.symm

/-- A marker is a text that starts with one and has nothing behind it. -/
theorem isMarker_iff : IsMarker m ↔ afterMarker? m = some [] := by
  rw [afterMarker?_eq_some_iff]
  constructor
  · intro hm
    exact ⟨m, hm, (List.append_nil m).symm⟩
  · rintro ⟨m', hm', rfl⟩
    rwa [List.append_nil]

instance (m : Text) : Decidable (IsMarker m) :=
  decidable_of_iff _ isMarker_iff.symm

/-! ## The two parts -/

/-- **Trimming does not show in terms**, whose segments are trimmed themselves. -/
theorem readTerms_trim (t : Text) : readTerms t.trim = readTerms t := by
  have hterms : ∀ t : Text, (splitOn '|' t).filterMap term?
      = ((splitOn '|' t).map trim).filterMap
        fun segment => (splitAtColon? segment).map fun parts => (parts.1.key, parts.2) := by
    intro t
    rw [List.filterMap_map]
    rfl
  rw [readTerms, readTerms, hterms, hterms, map_trim_splitOn_trim (by decide)]

/-- The comments in the part behind a marker. Blanks only are as good as none. -/
def commentsBehind (b : Text) : Except Markup.Error Comments :=
  if b.trim = [] then .ok [] else readComments b.trim

/-- A requisition is read part by part. -/
theorem read_eq (t : Text) : read t = (commentsBehind ((splitAtMarker t).2.getD [])).map
    fun comments => ⟨readTerms (splitAtMarker t).1, comments⟩ := by
  rw [read, readTerms_trim, commentsBehind]
  by_cases hblank : ((splitAtMarker t).2.getD []).trim = []
  · rw [hblank]
    rfl
  · rw [if_neg (by rwa [List.isEmpty_iff]), if_neg hblank]

theorem read_of_markerless (ha : Markerless a) : read a = .ok ⟨readTerms a, []⟩ := by
  rw [read_eq, splitAtMarker_of_markerless ha]
  rfl

theorem read_append (ha : Markerless a) (hm : IsMarker m) (b : Text) :
    read (a ++ m ++ b) = (commentsBehind b).map fun comments => ⟨readTerms a, comments⟩ := by
  rw [List.append_assoc, read_eq, splitAtMarker_append ha hm]
  rfl

/-- **A requisition is read at its first marker.** The terms are those of the text before it and the
comments those of the text behind it, and the requisition is refused only with these. Without the
marker the terms are the same. So nothing behind the first marker changes the terms, and nothing
before it changes the comments or what they are refused for. -/
theorem read_at_marker (a m b : Text) (ha : Markerless a) (hm : IsMarker m) :
    read (a ++ m ++ b) = (commentsBehind b).map (fun comments => ⟨readTerms a, comments⟩)
      ∧ read a = .ok ⟨readTerms a, []⟩
      ∧ (∀ m' b' r r', IsMarker m' → read (a ++ m ++ b) = .ok r → read (a ++ m' ++ b') = .ok r' →
        r.terms = r'.terms)
      ∧ ∀ a' m', Markerless a' → IsMarker m' →
        (read (a ++ m ++ b)).map Requisition.comments
          = (read (a' ++ m' ++ b)).map Requisition.comments := by
  have hterms : ∀ {m b r}, IsMarker m → read (a ++ m ++ b) = .ok r → r.terms = readTerms a := by
    intro m b r hm hread
    rw [read_append ha hm] at hread
    cases hbehind : commentsBehind b with
    | error e =>
        rw [hbehind] at hread
        cases hread
    | ok comments =>
        rw [hbehind] at hread
        rw [← Except.ok.inj hread]
  have hcomments : ∀ {a m}, Markerless a → IsMarker m →
      (read (a ++ m ++ b)).map Requisition.comments = commentsBehind b := by
    intro a m ha hm
    rw [read_append ha hm]
    cases commentsBehind b <;> rfl
  refine ⟨read_append ha hm b, read_of_markerless ha, ?_, ?_⟩
  · intro m' b' r r' hm' hread hread'
    rw [hterms hm hread, hterms hm' hread']
  · intro a' m' ha' hm'
    rw [hcomments ha hm, hcomments ha' hm']

/-- What stands before the marker ends like a marker without its colon, the marker is spelled with
a long s and a no-break space, and another marker follows. -/
theorem read_at_marker_behind_half_marker :
    Markerless "Level: VP | comments" ∧ IsMarker "|\u00A0COMMENTſ :"
      ∧ read ("Level: VP | comments".toList ++ "|\u00A0COMMENTſ :".toList
          ++ " Keywords: x | comments: y ".toList)
        = (readComments "Keywords: x | comments: y").map
          fun comments => ⟨[("level".toList, "VP".toList)], comments⟩ := by
  have ha : Markerless "Level: VP | comments" := by decide +kernel
  have hm : IsMarker "|\u00A0COMMENTſ :" := by decide +kernel
  obtain ⟨hread, -⟩ := read_at_marker "Level: VP | comments" "|\u00A0COMMENTſ :"
    " Keywords: x | comments: y " ha hm
  have hterms : readTerms "Level: VP | comments" = [("level".toList, "VP".toList)] := by
    decide +kernel
  have hbehind : commentsBehind " Keywords: x | comments: y "
      = readComments "Keywords: x | comments: y" := by
    have htrim : trim " Keywords: x | comments: y " = "Keywords: x | comments: y" := by
      decide +kernel
    rw [commentsBehind, htrim, if_neg (by decide)]
  rw [hterms, hbehind] at hread
  exact ⟨ha, hm, hread⟩

end LeadScreen.Requisition
