import LeadScreen.Proofs.Markup.Refusal
import Mathlib.Logic.Relation

set_option autoImplicit false

/-! # The run of a reading

Reading moves from place to place: over a construct, out of a raw element, and once from the first
pass to the second (`Moves`). No run goes on for ever. Reading a text fails exactly if its run
arrives at something that offends (`tokens_eq_error_iff`); what stands before that place, and
what would follow, has no part in it.
-/

namespace LeadScreen.Markup

/-- **A place in a run**: the pass, the raw element around the place, and the text that is left. -/
structure Place where
  final : Bool
  element : Option Text
  left : Text

namespace Place

def start (t : Text) : Place := ⟨false, none, t⟩

/-- Something that is refused stands at the place. Nothing is within a raw element. -/
def Offends (p : Place) (e : Error) : Prop :=
  p.element = none ∧ Markup.Offends p.left e

/-- What reading comes to from a place on, in this pass and the next. -/
def readOn (p : Place) : Except Error Reading :=
  match readFrom p.final p.element p.left with
  | .error e => .error e
  | .ok reading => if p.final then .ok reading else readFrom true reading.element reading.rest

end Place

/-- **One move of a run.** -/
inductive Moves : Place → Place → Prop where
  /-- A construct is read; it may open a raw element. -/
  | construct {final : Bool} {t rest : Text} {tokens : List Token} {h : rest.length < t.length}
      (hstep : readStep final t = .ok (.next tokens rest h)) :
      Moves ⟨final, none, t⟩ ⟨final, tokens.getLast?.bind Token.opensRaw?, rest⟩
  /-- The end tag of a raw element is found. -/
  | endTag {final : Bool} {name t before written behind : Text}
      (hcut : cutRaw? name t = some (before, written, behind))
      (hwritten : ∀ c ∈ written, c.toNat < 128) :
      Moves ⟨final, some name, t⟩ ⟨final, none, behind⟩
  /-- What is found is no end tag, because its name is not in ASCII. -/
  | content {final : Bool} {name t before written behind : Text}
      (hcut : cutRaw? name t = some (before, written, behind))
      (hwritten : ¬ ∀ c ∈ written, c.toNat < 128) :
      Moves ⟨final, some name, t⟩ ⟨final, some name, behind⟩
  /-- The first pass stops at a construct, and the second goes on behind what is read of it. -/
  | again {t rest : Text} {tokens : List Token}
      (hstep : readStep false t = .ok (.stop tokens rest)) :
      Moves ⟨false, none, t⟩ ⟨true, none, rest⟩
  /-- The first pass finds no end of a raw element, and the second looks for it once more. -/
  | againRaw {name t : Text} (hcut : cutRaw? name t = none) :
      Moves ⟨false, some name, t⟩ ⟨true, some name, t⟩

/-- From a place, the run arrives at another. -/
abbrev Arrives : Place → Place → Prop :=
  Relation.ReflTransGen Moves

variable {p q : Place} {e : Error} {final : Bool} {name t rest before written behind : Text}
  {front : List Token}

/-! ## One move -/

theorem readFrom_next {h : rest.length < t.length}
    (hstep : readStep final t = .ok (.next front rest h)) :
    readFrom final none t =
      (readFrom final (front.getLast?.bind Token.opensRaw?) rest).map (Reading.after front) := by
  rw [readFrom, hstep]
  rfl

theorem readFrom_stop (hstep : readStep final t = .ok (.stop front rest)) :
    readFrom final none t = .ok ⟨front, none, rest⟩ := by
  rw [readFrom, hstep]

theorem readFrom_error (hstep : readStep final t = .error e) :
    readFrom final none t = .error e := by
  rw [readFrom, hstep]

theorem readFrom_cut (hcut : cutRaw? name t = some (before, written, behind)) :
    readFrom final (some name) t =
      if written.all fun c => decide (c.toNat < 128) then
        (readFrom final none behind).map (Reading.after [.text before, .endTag name])
      else
        (readFrom final (some name) behind).map
          (Reading.after [.text (t.take (t.length - behind.length))]) := by
  conv_lhs => rw [readFrom]
  split
  · rename_i hnone
    rw [hcut] at hnone
    cases hnone
  · rename_i hsome
    rw [hcut] at hsome
    cases hsome
    rfl

theorem readFrom_endTag (hcut : cutRaw? name t = some (before, written, behind))
    (hwritten : ∀ c ∈ written, c.toNat < 128) :
    readFrom final (some name) t =
      (readFrom final none behind).map (Reading.after [.text before, .endTag name]) := by
  rw [readFrom_cut hcut, if_pos (by simpa using hwritten)]

theorem readFrom_content (hcut : cutRaw? name t = some (before, written, behind))
    (hwritten : ¬ ∀ c ∈ written, c.toNat < 128) :
    readFrom final (some name) t = (readFrom final (some name) behind).map
      (Reading.after [.text (t.take (t.length - behind.length))]) := by
  rw [readFrom_cut hcut, if_neg (by simpa using hwritten)]

theorem readFrom_unended (hcut : cutRaw? name t = none) :
    readFrom final (some name) t = .ok ⟨[], some name, t⟩ := by
  rw [readFrom]
  split
  · rfl
  · rename_i hsome
    rw [hcut] at hsome
    cases hsome

/-- What has been read before does not bear on whether reading fails. -/
theorem readOn_eq_error_iff_of_map (hfinal : p.final = q.final)
    (h : readFrom p.final p.element p.left
      = (readFrom q.final q.element q.left).map (Reading.after front)) :
    p.readOn = .error e ↔ q.readOn = .error e := by
  unfold Place.readOn
  rw [h, hfinal]
  cases readFrom q.final q.element q.left with
  | error e' => exact Iff.rfl
  | ok reading =>
      show (if q.final then .ok (reading.after front)
        else readFrom true reading.element reading.rest) = .error e ↔ _
      cases q.final with
      | true => exact iff_of_false nofun nofun
      | false =>
          -- of the first pass, the second sees only where it has stopped
          exact Iff.rfl

/-- The second pass goes on from where the first has stopped. -/
theorem readOn_of_stop (h : readFrom false p.element p.left = .ok ⟨front, q.element, q.left⟩)
    (hp : p.final = false) (hq : q.final = true) : p.readOn = q.readOn := by
  unfold Place.readOn
  rw [hp, hq, h]
  dsimp only
  cases readFrom true q.element q.left <;> rfl

/-- **A move does not change whether reading fails**, nor how. -/
theorem Moves.readOn_eq_error_iff (h : Moves p q) : p.readOn = .error e ↔ q.readOn = .error e := by
  cases h with
  | construct hstep => exact readOn_eq_error_iff_of_map rfl (readFrom_next hstep)
  | endTag hcut hwritten => exact readOn_eq_error_iff_of_map rfl (readFrom_endTag hcut hwritten)
  | content hcut hwritten => exact readOn_eq_error_iff_of_map rfl (readFrom_content hcut hwritten)
  | @again t rest front hstep =>
      have hread : Place.readOn ⟨false, none, t⟩ = Place.readOn ⟨true, none, rest⟩ :=
        readOn_of_stop (readFrom_stop hstep) rfl rfl
      rw [hread]
  | @againRaw name t hcut =>
      have hread : Place.readOn ⟨false, some name, t⟩ = Place.readOn ⟨true, some name, t⟩ :=
        readOn_of_stop (readFrom_unended hcut) rfl rfl
      rw [hread]

/-- Reading fails on the spot, or in the place that it moves to. -/
theorem offends_or_moves (h : p.readOn = .error e) :
    p.Offends e ∨ ∃ q, Moves p q ∧ q.readOn = .error e := by
  obtain ⟨final, element, t⟩ := p
  -- a move takes the failure along, so it is enough to find one
  have hmove : ∀ {q}, Moves ⟨final, element, t⟩ q → ∃ q, Moves ⟨final, element, t⟩ q
      ∧ q.readOn = .error e := fun hm => ⟨_, hm, hm.readOn_eq_error_iff.mp h⟩
  cases element with
  | none =>
      cases hstep : readStep final t with
      | error e' =>
          have hread : Place.readOn ⟨final, none, t⟩ = .error e' := by
            unfold Place.readOn
            rw [readFrom_error hstep]
          rw [hread] at h
          cases h
          exact Or.inl ⟨rfl, readStep_eq_error_iff.mp hstep⟩
      | ok step =>
          cases step with
          | next front rest shorter => exact Or.inr (hmove (.construct hstep))
          | stop front rest =>
              cases final with
              | false => exact Or.inr (hmove (.again hstep))
              | true =>
                  unfold Place.readOn at h
                  rw [readFrom_stop hstep] at h
                  cases h
  | some name =>
      cases hcut : cutRaw? name t with
      | some parts =>
          obtain ⟨before, written, behind⟩ := parts
          by_cases hwritten : ∀ c ∈ written, c.toNat < 128
          · exact Or.inr (hmove (.endTag hcut hwritten))
          · exact Or.inr (hmove (.content hcut hwritten))
      | none =>
          cases final with
          | false => exact Or.inr (hmove (.againRaw hcut))
          | true =>
              unfold Place.readOn at h
              rw [readFrom_unended hcut] at h
              cases h

theorem Place.Offends.readOn (h : p.Offends e) : p.readOn = .error e := by
  obtain ⟨final, element, t⟩ := p
  obtain ⟨rfl, h⟩ := h
  unfold Place.readOn
  rw [readFrom_error (readStep_eq_error_iff.mpr h)]

/-! ## All moves -/

/-- How much is left of a run: the second pass, if it is still to come, and the text. -/
def Place.size (p : Place) : Nat × Nat :=
  (if p.final then 0 else 1, p.left.length)

theorem Moves.size_lt (h : Moves p q) :
    Prod.Lex (· < ·) (· < ·) q.size p.size := by
  cases h with
  | @construct _ _ _ _ shorter _ => exact .right _ shorter
  | endTag hcut hwritten => exact .right _ (length_cutRaw? hcut)
  | content hcut hwritten => exact .right _ (length_cutRaw? hcut)
  | again hstep => exact .left _ _ Nat.zero_lt_one
  | againRaw hcut => exact .left _ _ Nat.zero_lt_one

/-- **Every run ends.** -/
theorem moves_wellFounded : WellFounded fun q p => Moves p q :=
  Subrelation.wf (fun h => Moves.size_lt h)
    (InvImage.wf Place.size (Prod.lex Nat.lt_wfRel Nat.lt_wfRel).wf)

/-- Reading fails from a place on exactly if the run from there arrives at something that
offends. -/
theorem readOn_eq_error_iff : p.readOn = .error e ↔ ∃ q, Arrives p q ∧ q.Offends e := by
  constructor
  · intro h
    -- the run ends, so there is a last place from which reading fails
    induction p using moves_wellFounded.induction with
    | _ p ih =>
        rcases offends_or_moves h with hoffends | ⟨q, hmove, hq⟩
        · exact ⟨p, .refl, hoffends⟩
        · obtain ⟨r, harrives, hoffends⟩ := ih q hmove hq
          exact ⟨r, .head hmove harrives, hoffends⟩
  · rintro ⟨q, harrives, hoffends⟩
    induction harrives using Relation.ReflTransGen.head_induction_on with
    | refl => exact hoffends.readOn
    | head hmove _ ih => exact hmove.readOn_eq_error_iff.mpr ih

/-- **Reading a text fails exactly if its run arrives at something that offends.** -/
theorem tokens_eq_error_iff :
    tokens t = .error e ↔ ∃ p, Arrives (.start t) p ∧ p.Offends e := by
  rw [← readOn_eq_error_iff]
  unfold tokens Place.readOn Place.start
  dsimp only
  cases readFrom false none t with
  | error e' => simp [bind, Except.bind]
  | ok first =>
      cases hsecond : readFrom true first.element first.rest <;>
        simp [bind, Except.bind, pure, Except.pure, hsecond]

end LeadScreen.Markup
