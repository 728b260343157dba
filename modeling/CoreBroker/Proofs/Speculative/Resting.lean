import CoreBroker.Proofs.Speculative.AwareSteps
set_option autoImplicit false

/-!
# How a speculative fulfiller comes to rest

The loop comes to rest only at the end of a pass, in which it has just listed the requests, and it keeps its
receivers until it is over.
-/

namespace CoreBroker.Speculative

variable {chance : Chance} {f : Speculative} {s : Scene} {me : Nat}

theorem not_isOver_of_isAfterPass (hafter : f.point.isAfterPass = true) : f.isOver = false := by
  cases hpoint : f.point with
  | ended =>
    rw [hpoint] at hafter
    exact absurd hafter Bool.false_ne_true
  | _ => simp [isOver, hpoint]

/-- The loop comes to rest at the end of a pass.  Whatever it does before it takes notice of something is
seen on no stage. -/
theorem matching_or_resting (hids : f.states.ids.Nodup) {r : Speculative × Scene}
    (hstep : f.step chance me s = some r) (hafter : r.1.point.isAfterPass = true) :
    (∃ ready discarded, f.point = .matching ready discarded) ∨
      (f.point.isAfterPass = true ∧ r.2.stage = s.stage) := by
  have helsewhere : ∀ {g : Speculative}, g.point.isAfterPass = false →
      g.point.isAfterPass ≠ true := fun hnot => Bool.eq_false_iff.mp hnot
  cases step_loopStep hstep with
  | joins _ => exact .inr ⟨hafter, rfl⟩
  | waits haside => exact .inr ⟨hafter, haside.stage⟩
  | begins _ | wakes _ | resumes _ => exact absurd hafter (helsewhere (turn_leavesPass f _).after)
  | counts _ _ _ =>
    exact absurd hafter (helsewhere (SpeculativePoint.not_isAfterPass_of_isInPass
      (count_holds chance hids _ _ _).point))
  | @judges pending ready held _ holders discarded s₁ _ _ isAlive =>
    refine absurd hafter (helsewhere (SpeculativePoint.not_isAfterPass_of_isInPass ?_))
    obtain ⟨ready', discarded', s₂, -, heq⟩ :=
      judge_eq_nextHolder f pending ready held holders discarded isAlive s₁
    rw [heq]
    exact (nextHolder_holds pending ready' discarded' holders hids).point
  | assigns hpoint _ _ => exact .inl ⟨_, _, hpoint⟩
  | @discards others hpoint => exact .inr ⟨by rw [hpoint]; rfl, disposeInTurn_stage f s _ _ others⟩
  | notices _ _ => exact absurd hafter (helsewhere (noticeExit_leavesPass _ _ _).1.after)
  | @releases guard _ => exact absurd hafter (helsewhere (releaseAll_leavesPass _ s).after)
  | dissolves _ =>
    rw [disposeInTurn_eq] at hafter
    exact absurd hafter (helsewhere
      (SpeculativePoint.of_inTurn (P := (·.isAfterPass = false)) (fun _ => rfl) rfl _))
  | noticesLate hpoint _ => exact absurd hafter (helsewhere (by rw [noticeLateExit, hpoint]; rfl))
  | reconciles _ _ | stops _ _ | records _ | finishes _ _ => exact absurd hafter (helsewhere rfl)

theorem Attempted.point_eq {f' : Speculative} (h : f.Attempted me f') : f'.point = f.point := by
  cases h <;> rfl

/-- The loop gives up no receiver unless it is over. -/
theorem step_stays (hids : f.states.ids.Nodup) {r : Speculative × Scene}
    (hstep : f.step chance me s = some r) (hgoesOn : r.1.point ≠ .ended) :
    ∃ events, Scene.ActSequence (fun _ act => ¬ act.Leaves f.subscription) s events r.2 := by
  have hdrained : Scene.ActSequence (fun _ act => ¬ act.Leaves f.subscription) s [] (f.drain s) :=
    drain_acts (fun _ h => h.elim id id) (fun _ h => h.elim id id) s
  cases step_loopStep hstep with
  | waits haside => exact ⟨_, .aside .refl haside⟩
  | begins _ => exact ⟨_, .aside .refl ((s.aside_report _ _ _).trans (aside_turn f _))⟩
  | reconciles _ _ => exact ⟨_, .aside .refl (aside_reconcile _ s)⟩
  | counts _ haside _ =>
    exact ⟨_, .aside .refl (haside.trans (count_holds chance hids _ _ _).aside)⟩
  | @judges pending ready held _ holders discarded s₁ _ haside isAlive =>
    obtain ⟨ready', discarded', s₂, hreported, heq⟩ :=
      judge_eq_nextHolder f pending ready held holders discarded isAlive s₁
    rw [heq]
    exact ⟨_, .aside .refl ((haside.trans hreported).trans
      (nextHolder_holds pending ready' discarded' holders hids).aside)⟩
  | @assigns ready discarded board s₁ _ haside _ =>
    obtain ⟨events, hassigns⟩ := f.assign_assigns
      ((board.registry.candidates f.constraint).map (·.id)) ready s₁
    have hspares : Scene.ActSequence (fun _ act => ¬ act.Leaves f.subscription) s₁ events _ :=
      hassigns.acts.mono fun _ _ hplaces => (MayPlace.spares hplaces).not_leaves
    rw [finishPass_eq]
    exact ⟨_, ((Scene.ActSequence.aside .refl haside).trans hspares).trans (resize_acts chance me discarded _
      hids fun _ _ h => h.elim id id)⟩
  | notices _ _ => exact ⟨_, hdrained.aside (noticeExit_leavesPass _ _ _).2⟩
  | wakes _ => exact ⟨_, hdrained.aside (aside_turn f _)⟩
  | resumes _ => exact ⟨_, .aside .refl (aside_turn f _)⟩
  | @releases guard _ =>
    have hfired := Scene.aside_foldl Scene.aside_fire (f.states.filterMap (·.inFlight?)) s
    rw [releaseAll_eq]
    exact ⟨_, (Scene.ActSequence.aside .refl hfired).trans (Scene.acts_disposeCores
      (fun _ _ h => h.elim id id) ((f.states.filterMap (·.heldCore?)).take 1) _)⟩
  | @discards others _ | @dissolves others _ =>
    rw [disposeInTurn_eq]
    exact ⟨_, Scene.acts_disposeCores (fun _ _ h => h.elim id id) (others.take 1) s⟩
  | noticesLate _ _ => exact ⟨_, .aside .refl (aside_noticeLateExit _ _ s)⟩
  | finishes _ _ => exact absurd rfl hgoesOn
  | _ => exact ⟨_, .refl⟩

end CoreBroker.Speculative
