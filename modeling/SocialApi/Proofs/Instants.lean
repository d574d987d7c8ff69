/-
Module: SocialApi.Proofs.Instants
Purpose: What held at an instant of a timed history.
Trusted boundary: none
Main exports:
  Stay, HoldsAt, HoldsAt.step, holdsAt_step_time, HoldsAt.le_clock
-/
import SocialApi.Application.LikeService

namespace SocialApi

/-- A world that a history passed through, and the seconds it stayed as it was. -/
abbrev Stay := World × Nat

/-- The property held at the instant, in a world that was passed through or in the one
reached. -/
def HoldsAt (P : World → Prop) (stays : List Stay) (reached : World) (instant : Int) : Prop :=
  (∃ stay ∈ stays, P stay.1 ∧ stay.1.clock ≤ instant ∧ instant ≤ stay.1.clock + stay.2) ∨
    P reached ∧ instant = reached.clock

/-- Every world that was passed through is over. -/
def InOrder (stays : List Stay) (reached : World) : Prop :=
  ∀ stay ∈ stays, stay.1.clock + stay.2 ≤ reached.clock

section Instants

variable {P : World → Prop} {stays : List Stay} {reached after : World} {elapse : Nat}
  {instant : Int}

/-- What held at an instant still did after a further step. -/
theorem HoldsAt.step (holds : HoldsAt P stays reached instant) :
    HoldsAt P (stays ++ [(reached, elapse)]) after instant := by
  rcases holds with ⟨stay, member, held⟩ | ⟨held, rfl⟩
  · exact .inl ⟨stay, List.mem_append_left _ member, held⟩
  · refine .inl ⟨(reached, elapse), List.mem_append_right _ List.mem_cons_self, held, le_rfl, ?_⟩
    exact Int.le_add_of_nonneg_right (Int.natCast_nonneg elapse)

/-- A world lasts up to the time of the step that ends it. -/
theorem holdsAt_step_time (held : P reached) :
    HoldsAt P (stays ++ [(reached, elapse)]) after (reached.clock + elapse) := by
  refine .inl ⟨(reached, elapse), List.mem_append_right _ List.mem_cons_self, held, ?_, le_rfl⟩
  exact Int.le_add_of_nonneg_right (Int.natCast_nonneg elapse)

theorem InOrder.step (ordered : InOrder stays reached)
    (clock : after.clock = reached.clock + elapse) :
    InOrder (stays ++ [(reached, elapse)]) after := by
  intro stay member
  rcases List.mem_append.mp member with old | new
  · have earlier := ordered stay old
    omega
  · obtain rfl := List.mem_singleton.mp new
    exact clock.ge

/-- Nothing held later than now. -/
theorem HoldsAt.le_clock (holds : HoldsAt P stays reached instant)
    (ordered : InOrder stays reached) : instant ≤ reached.clock := by
  rcases holds with ⟨stay, member, _, _, until_then⟩ | ⟨_, rfl⟩
  · exact until_then.trans (ordered stay member)
  · exact le_rfl

end Instants

end SocialApi
