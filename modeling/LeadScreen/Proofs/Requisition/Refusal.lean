import LeadScreen.Proofs.Markup.Plain
import LeadScreen.Requisition.Read

set_option autoImplicit false

/-! # Requisitions that are refused

Reading a requisition is meant to take any text, but what follows its marker is read as markup,
and with the markup the requisition is refused. `read_refused_iff` says when, and
`exists_read_of_plain` that most of what is badly formed does no harm.
-/

namespace LeadScreen.Requisition

open Markup

variable {t : Text} {e : Error}

/-- The part of a requisition that is read as markup. -/
def narrative (t : Text) : Text :=
  ((splitAtMarker t).2.getD []).trim

theorem plain_nil : Plain [] where
  unmarked h := by simp at h
  unnumbered digits _ h := by simp at h

theorem map_eq_error_iff {α β : Type} {f : α → β} {x : Except Error α} :
    x.map f = .error e ↔ x = .error e := by
  cases x <;> simp [Except.map]

/-- What is made of the markup cannot fail, so a requisition is refused with its markup. -/
theorem read_eq_error_iff_tokens : read t = .error e ↔ tokens (narrative t) = .error e := by
  unfold read
  dsimp only
  rw [← narrative]
  split
  · rename_i hempty
    obtain ⟨found, hok⟩ := exists_tokens_of_plain plain_nil
    rw [List.isEmpty_iff.mp hempty, hok]
    exact iff_of_false nofun nofun
  · rw [map_eq_error_iff, readComments, map_eq_error_iff, commentNodes, map_eq_error_iff,
      Forest.read, map_eq_error_iff]

/-- **The comments of a requisition are refused**: the run over its markup arrives at something
that offends. -/
def Refused (t : Text) : Prop :=
  ∃ p e, Arrives (.start (narrative t)) p ∧ p.Offends e

theorem exists_read_eq_error_iff : (∃ e, read t = .error e) ↔ Refused t := by
  rw [Refused, exists_comm]
  exact exists_congr fun e => read_eq_error_iff_tokens.trans tokens_eq_error_iff

theorem not_refused_iff : ¬ Refused t ↔ ∃ r, read t = .ok r := by
  rw [← exists_read_eq_error_iff]
  cases read t <;> simp

/-- **A requisition is refused exactly if the run over its markup arrives at something that
offends**, and with the error that it offends with. In all other cases it is read. -/
theorem read_refused_iff (t : Text) :
    (∀ e, read t = .error e ↔ ∃ p, Arrives (.start (narrative t)) p ∧ p.Offends e)
      ∧ ((∃ r, read t = .ok r) ↔ ¬ ∃ p e, Arrives (.start (narrative t)) p ∧ p.Offends e) := by
  have herror : ∀ e, read t = .error e ↔ ∃ p, Arrives (.start (narrative t)) p ∧ p.Offends e :=
    fun e => read_eq_error_iff_tokens.trans tokens_eq_error_iff
  refine ⟨herror, ?_, ?_⟩
  · rintro ⟨r, hread⟩ ⟨p, e, hp⟩
    rw [(herror e).mpr ⟨p, hp⟩] at hread
    cases hread
  · intro h
    cases hread : read t with
    | ok r => exact ⟨r, rfl⟩
    | error e =>
        obtain ⟨p, hp⟩ := (herror e).mp hread
        exact absurd ⟨p, e, hp⟩ h

/-- **A marked section with a keyword of one's own is refused**, and the requisition with it. -/
theorem unknown_section_refused :
    ¬ ∃ r, read "| comments: <![foo]>".toList = .ok r := by
  have hnarrative : narrative "| comments: <![foo]>".toList = "<![foo]>".toList := by decide +kernel
  have hend : ∀ c ∈ "]>".toList.head?, isKeywordChar c = false := fun c hc => by
    obtain rfl := Option.some.inj hc
    rfl
  have hname : IsName "foo".toList "]>".toList :=
    ⟨⟨'f', ['o', 'o'], rfl, rfl, List.all_eq_true.mp rfl⟩, hend⟩
  have hsection : OffendsSection "foo]>".toList (.unknownSection "foo".toList) :=
    @OffendsSection.unknown _ [] ['>'] ']' hname nofun (by decide) (by decide +kernel)
  have hmarkup : Offends "<![foo]>".toList (.unknownSection "foo".toList) := .marked hsection
  have hread : read "| comments: <![foo]>".toList = .error (.unknownSection "foo".toList) := by
    rw [read_eq_error_iff_tokens, hnarrative, tokens_eq_error_iff]
    exact ⟨.start "<![foo]>".toList, .refl, rfl, hmarkup⟩
  rintro ⟨r, hok⟩
  rw [hread] at hok
  cases hok

/-- **A plain requisition is always read.** -/
theorem exists_read_of_plain (h : Plain (narrative t)) : ∃ r, read t = .ok r := by
  obtain ⟨found, hfound⟩ := exists_tokens_of_plain h
  cases hread : read t with
  | ok r => exact ⟨r, rfl⟩
  | error e =>
      rw [read_eq_error_iff_tokens.mp hread] at hfound
      cases hfound

end LeadScreen.Requisition
