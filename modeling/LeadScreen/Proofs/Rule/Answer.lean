import LeadScreen.Proofs.Text.Case
import LeadScreen.Proofs.Text.Cut
import LeadScreen.Proofs.Text.Strip
import LeadScreen.Rule.Prooflink
import LeadScreen.Rule.Status

set_option autoImplicit false

/-! # What rules answer

A rule explains every verdict but a favourable one, in words that are not those of a failure
(`IsAnswer`). All rules but one settle the matter as well (`IsSettled`): it is the status rule that
may ask for another look, and that of the status alone (`finding_statusVerdict`). The rule for
proof links is simpler than it is written: any link is as good as any other
(`prooflink_eq`).
-/

namespace LeadScreen

variable {t link : Text} {v : Verdict}

/-! ## Answers -/

/-- **A verdict as rules give it**: with a comment exactly if it is not favourable, and not with one
about the handling of the lead. -/
structure Verdict.IsAnswer (v : Verdict) : Prop where
  explained : v.comment = none ↔ v.finding = .valid
  own : ∀ c ∈ v.comment, ¬ "Handler".toList <+: c

/-- A verdict that leaves nothing to be looked at again. -/
structure Verdict.IsSettled (v : Verdict) : Prop extends v.IsAnswer where
  settled : v.finding ≠ .recheck

theorem isSettled_valid : Verdict.valid.IsSettled where
  explained := iff_of_true rfl rfl
  own := nofun
  settled := nofun

/-- A comment is not about the handling if it starts with another letter. -/
theorem not_handler_prefix (h : ∃ c ∈ t.head?, c ≠ 'H') : ¬ "Handler".toList <+: t := by
  rintro ⟨rest, rfl⟩
  obtain ⟨c, hc, hne⟩ := h
  exact hne (Option.some.inj hc).symm

theorem isSettled_invalid (h : ∃ c ∈ t.head?, c ≠ 'H') : (Verdict.invalid t).IsSettled where
  explained := iff_of_false nofun nofun
  own := fun _ hc => Option.some.inj hc ▸ not_handler_prefix h
  settled := nofun

namespace Rule

/-! ## Statuses -/

theorem mem_of_lookup_eq_some {α β : Type} [BEq α] [LawfulBEq α] {entries : List (α × β)} {key : α}
    {value : β} (h : entries.lookup key = some value) : (key, value) ∈ entries := by
  obtain ⟨before, after, rfl, -⟩ := List.lookup_eq_some_iff.mp h
  exact List.mem_append_right _ List.mem_cons_self

/-- **The status rule asks for another look at three statuses**, and at no other. -/
theorem finding_statusVerdict (t : Text) :
    (statusVerdict t).finding = .recheck ↔ t ∈ openStatuses := by
  have hopen : ∀ s ∈ openStatuses, (statusVerdict s).finding = .recheck := by decide +kernel
  have hsettled : ∀ entry ∈ settledStatuses, entry.2.finding ≠ .recheck := by decide +kernel
  refine ⟨fun h => ?_, hopen t⟩
  unfold statusVerdict at h
  split at h
  · rename_i v hlookup
    exact absurd h (hsettled _ (mem_of_lookup_eq_some hlookup))
  · split at h
    · rename_i hmem
      simpa using hmem
    · cases h

theorem isAnswer_statusVerdict (t : Text) : (statusVerdict t).IsAnswer := by
  unfold statusVerdict
  split
  · rename_i v hlookup
    have hmem := mem_of_lookup_eq_some hlookup
    simp only [settledStatuses, List.mem_cons, Prod.mk.injEq, List.not_mem_nil, or_false] at hmem
    rcases hmem with ⟨-, rfl⟩ | ⟨-, rfl⟩ | ⟨-, rfl⟩ | ⟨-, rfl⟩
    · exact isSettled_valid.toIsAnswer
    · exact isSettled_valid.toIsAnswer
    · exact (isSettled_invalid ⟨'r', rfl, by decide⟩).toIsAnswer
    · exact (isSettled_invalid ⟨'s', rfl, by decide⟩).toIsAnswer
  · split
    · refine ⟨iff_of_false nofun nofun, fun c hc => ?_⟩
      exact Option.some.inj hc ▸ not_handler_prefix ⟨'s', rfl, by decide⟩
    · exact (isSettled_invalid ⟨'l', rfl, by decide⟩).toIsAnswer

/-! ## Proof links -/

/-- The domain that a link names is the end of the link. -/
theorem linkDomain_isSuffix (link : Text) : linkDomain link <:+ link := by
  obtain ⟨rest, hrest⟩ := List.takeWhile_prefix (l := link.reverse) (· != '@')
  refine ⟨rest.reverse, ?_⟩
  rw [linkDomain, ← List.reverse_append, hrest, List.reverse_reverse]

/-- **Any proof link will do**: the domain that it names is a part of it, whatever it is. -/
theorem prooflink_eq (lead : Lead) :
    prooflink lead
      = if lead.prooflink.trim = [] then .invalid "Prooflink is empty" else .valid := by
  have hdomain : ∀ link, Text.includes (linkDomain link) link = true := fun link =>
    Text.includes_iff.mpr (linkDomain_isSuffix link).isInfix
  unfold prooflink
  dsimp only
  by_cases hblank : lead.prooflink.trim = []
  · have hempty := Text.lower_eq_nil_iff.mpr hblank
    rw [if_pos (List.isEmpty_iff.mpr hempty), if_pos hblank]
  · have hlink : ¬ (Text.lower lead.prooflink.trim).isEmpty = true := fun hempty =>
      hblank (Text.lower_eq_nil_iff.mp (List.isEmpty_iff.mp hempty))
    rw [if_neg hlink, if_neg hblank, hdomain, if_pos rfl, ite_self]

end Rule

end LeadScreen
