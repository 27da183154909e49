import CafeSession.Manager.State

namespace CafeSession.Manager

/-- The effects recorded where the phase changes. -/
def Effect.changesPhase : Effect → Bool
  | .phaseEnded _ | .sessionCancelled => true
  | _ => false

/-- The effects, the newest first, lead from one phase to another, one phase up
for each phase ended, and back to the running phase by each cancellation. -/
inductive Progress (start : Phase) : List Effect → Phase → Prop
  | refl : Progress start [] start
  | ended {effects : List Effect} {ended : PhaseEnd} (before : Progress start effects ended.phase)
      (more : ended.phase ≠ .exit) :
      Progress start (.phaseEnded ended :: effects) ended.phase.next
  | cancelled {effects : List Effect} {phase : Phase} (before : Progress start effects phase)
      (late : .queryEndSession ≤ phase) : Progress start (.sessionCancelled :: effects) .running
  | other {effect : Effect} {effects : List Effect} {phase : Phase}
      (before : Progress start effects phase) (still : effect.changesPhase = false) :
      Progress start (effect :: effects) phase

namespace Progress

variable {start middle finish : Phase} {effects earlier later : List Effect}

theorem trans (first : Progress start earlier middle) (second : Progress middle later finish) :
    Progress start (later ++ earlier) finish := by
  induction second with
  | refl => exact first
  | ended _ more ih => exact .ended ih more
  | cancelled _ late ih => exact .cancelled ih late
  | other _ still ih => exact .other ih still

theorem one {ended : PhaseEnd} (more : ended.phase ≠ .exit) :
    Progress ended.phase [.phaseEnded ended] ended.phase.next :=
  .ended .refl more

/-- Effects that are not looked at may be left out. -/
theorem of_filter {keep : Effect → Bool}
    (keeps : ∀ effect : Effect, effect.changesPhase = true → keep effect = true)
    (progress : Progress start (effects.filter keep) finish) : Progress start effects finish := by
  induction effects generalizing finish with
  | nil => exact progress
  | cons effect effects ih =>
      cases kept : keep effect with
      | true =>
          rw [List.filter_cons_of_pos kept] at progress
          cases progress with
          | ended before more => exact .ended (ih before) more
          | cancelled before late => exact .cancelled (ih before) late
          | other before still => exact .other (ih before) still
      | false =>
          rw [List.filter_cons_of_neg (by simp [kept])] at progress
          refine .other (ih progress) ?_
          cases changes : effect.changesPhase with
          | false => rfl
          | true => exact absurd (keeps effect changes) (by simp [kept])

end Progress

end CafeSession.Manager
