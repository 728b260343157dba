import CoreBroker.Proofs.Dedicated.Awareness
import CoreBroker.Proofs.Registry.Availability
import CoreBroker.Proofs.Scene.Boards
set_option autoImplicit false

/-!
# How a dedicated fulfiller comes to rest

The loop comes to rest only by a step in which it looked at the requests and found none to serve, unless
its shutdown was fired.
-/

namespace CoreBroker.Dedicated

variable {f : Dedicated} {s s₁ : Scene} {me : Nat} {lookAgainAt : Option Nat}

/-- The loop is being shut down, or no request that it may serve is available. -/
def HasNoDemand (f : Dedicated) (s : Scene) : Prop :=
  s.isCancelled f.shutdown = true ∨ ∀ q ∈ (s.stage.board f.board).1.candidates .all,
    q.isServable f.settings.servesLocal f.offeredDelay s.now = false

theorem rest_hasNoDemand {board : Board}
    (hboard : s.stage.boards[f.board]? = some (board.registry, board.changes))
    (hnone : board.registry.hasNext f.settings.servesLocal f.offeredDelay s.now = false)
    (hstage : s₁.stage = s.stage) (hnow : s₁.now = s.now) :
    (f.rest s₁).1.HasNoDemand (f.rest s₁).2 := by
  refine .inr fun q (hq : q ∈ (s₁.stage.board f.board).1.candidates .all) => ?_
  rw [hstage, Stage.board_eq hboard] at hq
  rw [Registry.hasNext_eq_any, ← hnow] at hnone
  exact Bool.eq_false_iff.mpr (List.any_eq_false.mp hnone q hq)

theorem pass_hasNoDemand (hidle : (f.pass s).1.point = .idle lookAgainAt) :
    (f.pass s).1.HasNoDemand (f.pass s).2 := by
  unfold pass at hidle ⊢
  split at hidle
  · rename_i hcancelled
    rw [if_pos hcancelled]
    exact .inl hcancelled
  · split at hidle
    · exact absurd hidle (by simp [probe, goTo])
    · exact absurd hidle (by simp [goTo])

theorem turn_not_idle : (f.turn s).1.point ≠ .idle lookAgainAt := by
  unfold turn
  split
  · rcases f.close_point s with hpoint | hpoint <;> simp [hpoint]
  · rename_i hgoesOn
    unfold pass
    rw [if_neg hgoesOn]
    split
    · simp [probe, goTo]
    · simp [goTo]

/-- A loop that rests and takes a step rests no more. -/
theorem step_not_idle {r : Dedicated × Scene} (hpoint : f.point = .idle lookAgainAt)
    (hstep : f.step me s = some r) {other : Option Nat} : r.1.point ≠ .idle other := by
  simp only [step, hpoint] at hstep
  split at hstep
  · rw [← Option.some.inj hstep]
    rcases f.close_point s with hpoint | hpoint <;> simp [hpoint]
  · split at hstep
    · rw [← Option.some.inj hstep]
      exact turn_not_idle
    · exact absurd hstep (by simp)

/-- The loop comes to rest by looking. -/
theorem step_hasNoDemand {r : Dedicated × Scene} (hstep : f.step me s = some r)
    (hidle : r.1.point = .idle lookAgainAt) : r.1.HasNoDemand r.2 := by
  cases step_loopStep hstep with
  | waits _ => exact absurd hidle (step_not_idle hidle hstep)
  | begins _ => exact absurd hidle turn_not_idle
  | wakes _ => exact absurd hidle turn_not_idle
  | @rests board s₁ _ _ hboard hdemand =>
    exact rest_hasNoDemand hboard hdemand (s₁.aside_leave f.board).stage rfl
  | @withdraws call _ hcancelled => exact .inl ((s.aside_dropCall call).isCancelled hcancelled)
  | @receives call result s₁ _ _ => cases result <;> exact absurd hidle (by simp [receive, probe, goTo])
  | @abandons call board s₁ _ _ hboard hdemand =>
    have hdropped := (((s₁.aside_leave f.board).trans (Scene.aside_fire _ call.token)).trans
      (Scene.aside_report _ .debug "no request left, provider call abandoned"
        [f.providerField])).trans (Scene.aside_dropCall _ call)
    refine rest_hasNoDemand hboard hdemand hdropped.stage ?_
    rw [Scene.now_dropCall, Scene.now_report]
    rfl
  | resumes _ => exact pass_hasNoDemand hidle
  | @judges core ticket s₁ _ _ isAlive =>
    unfold judge at hidle
    split at hidle <;> exact absurd hidle (by simp [goTo])
  | disposed _ => exact pass_hasNoDemand hidle
  | closes _ =>
    rcases f.close_point s with hpoint | hpoint <;> exact absurd hidle (by simp [hpoint])
  | @chooses core board s₁ _ _ hboard =>
    unfold choose at hidle ⊢
    split at hidle
    · rename_i hnext
      have haside := (s₁.aside_leave f.board).trans
        (Scene.aside_report _ .trace "no request left, keeping core" [f.providerField])
      refine rest_hasNoDemand (f := { f with spare := some core }) hboard
        (Registry.hasNext_of_next?_eq_none hnext) haside.stage ?_
      rw [Scene.now_report]
      rfl
    · exact absurd hidle (by simp [goTo])
  | @places core request board s₁ _ _ _ =>
    unfold place at hidle ⊢
    split at hidle
    · exact pass_hasNoDemand hidle
    · exact pass_hasNoDemand hidle
  | _ => exact absurd hidle (by simp [call, finish, goTo])

end CoreBroker.Dedicated
