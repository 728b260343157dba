import CoreBroker.Proofs.Speculative.AwareSteps
set_option autoImplicit false

/-!
# When a fulfiller gives everything up

A fulfiller turns to giving everything up only after its shutdown was fired.
-/

namespace CoreBroker.Speculative

variable {chance : Chance} {f f' : Speculative} {s s' : Scene} {a : Attempt} {me : Nat}

/-- Only a shutdown makes the loop stop. -/
def Heeds (f : Speculative) (s : Scene) : Prop :=
  f.point.isStopping = true → s.isCancelled f.shutdown = true

theorem Heeds.of_not (hpoint : f.point.isStopping = false) : f.Heeds s :=
  fun hstopping => absurd (hpoint.symm.trans hstopping) Bool.false_ne_true

/-- A fulfiller that stays at its point goes on to heed its shutdown. -/
theorem Heeds.later (h : f.Heeds s) (hprecedes : s.Precedes s') (hpoint : f'.point = f.point)
    (hshutdown : f'.shutdown = f.shutdown) : f'.Heeds s' := by
  unfold Heeds
  rw [hpoint, hshutdown]
  exact fun hstopping => hprecedes.isCancelled (h hstopping)

theorem turn_heeds (f : Speculative) (s : Scene) : (f.turn s).1.Heeds (f.turn s).2 := by
  unfold turn
  split
  · rename_i hcancelled
    exact fun _ => hcancelled
  · exact .of_not rfl

theorem Holds.heeds {ready : List Ready} {discarded : List Core}
    (hholds : Holds f s ready discarded f' s') {s₁ : Scene} : f'.Heeds s₁ :=
  .of_not (SpeculativePoint.not_isStopping_of_isInPass hholds.point)

theorem noticeExit_heeds (f : Speculative) (exit : Exit) (s : Scene) :
    (f.noticeExit exit s).1.Heeds (f.noticeExit exit s).2 := by
  unfold noticeExit
  simp only
  split
  · split
    · exact .of_not rfl
    · exact .of_not rfl
  · exact turn_heeds _ s

/-- Every step of the loop heeds the shutdown. -/
theorem step_heeds (hids : f.states.ids.Nodup) (h : f.Heeds s) {r : Speculative × Scene}
    (hstep : f.step chance me s = some r) (hprecedes : s.Precedes r.2)
    (hshutdown : r.1.shutdown = f.shutdown) : r.1.Heeds r.2 := by
  cases step_loopStep hstep with
  | joins _ => exact h.later hprecedes rfl rfl
  | waits _ => exact h.later hprecedes rfl rfl
  | begins _ => exact turn_heeds f _
  | reconciles _ _ => exact .of_not rfl
  | counts _ _ _ => exact (count_holds chance hids _ _ _).heeds
  | @judges pending ready held _ holders discarded s₁ _ _ isAlive =>
    obtain ⟨ready', discarded', s₂, -, heq⟩ :=
      judge_eq_nextHolder f pending ready held holders discarded isAlive s₁
    rw [heq]
    exact (nextHolder_holds pending ready' discarded' holders hids).heeds
  | assigns _ _ _ =>
    rw [finishPass_eq]
    exact .of_not (SpeculativePoint.of_inTurn (P := (·.isStopping = false)) (fun _ => rfl) rfl _)
  | discards _ =>
    rw [disposeInTurn_eq]
    exact .of_not (SpeculativePoint.of_inTurn (P := (·.isStopping = false)) (fun _ => rfl) rfl _)
  | stops _ hcancelled => exact fun _ => hcancelled
  | notices _ _ => exact noticeExit_heeds _ _ _
  | wakes _ => exact turn_heeds f _
  | records _ => exact .of_not rfl
  | resumes _ => exact turn_heeds f _
  | releases hpoint | dissolves hpoint =>
    intro _
    rw [hshutdown]
    exact hprecedes.isCancelled (h (by rw [hpoint]; rfl))
  | noticesLate _ _ => exact h.later hprecedes rfl rfl
  | finishes hpoint _ =>
    intro _
    rw [hshutdown]
    exact hprecedes.isCancelled (h (by rw [hpoint]; rfl))

end CoreBroker.Speculative
