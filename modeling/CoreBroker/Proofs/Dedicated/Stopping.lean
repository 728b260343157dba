import CoreBroker.Proofs.Runs.Onsets
set_option autoImplicit false

/-!
# What ends the loop of a dedicated fulfiller

The loop ends of itself only after its shutdown was fired: after an error of its provider it pauses and
asks again, and a call that is not needed any more is dropped.  A panic of the provider is another matter.
The call is made in the loop itself, so the panic brings the loop down, and the requests that it would have
served wait on.
-/

namespace CoreBroker

/-- The loop is about to end because of its shutdown, or has ended so. -/
def DedicatedPoint.isClosing : DedicatedPoint → Bool
  | .closing | .ended => true
  | _ => false

namespace Dedicated

variable {f : Dedicated} {s : Scene} {me : Nat}

/-- The call that the loop waits for panics as the loop looks at it. -/
def IsBroughtDown (f : Dedicated) (s : Scene) : Prop :=
  ∃ call s', f.point = .calling call ∧ s.lookAtCall call = .ended .panicked s'

theorem isClosing_pass (f : Dedicated) (s : Scene) : (f.pass s).1.point.isClosing = false := by
  unfold pass
  split
  · rfl
  · split <;> rfl

/-- At its head the loop closes only if its shutdown was fired. -/
theorem turn_closes (hclosing : (f.turn s).1.point.isClosing = true) :
    s.isCancelled f.shutdown = true := by
  unfold turn at hclosing
  split at hclosing
  · assumption
  · exact absurd (hclosing.symm.trans (f.isClosing_pass s)) (by simp)

/-- The loop turns to its end only if its shutdown was fired. -/
theorem step_closes {r : Dedicated × Scene} (hstep : f.step me s = some r)
    (hbefore : f.point.isClosing = false) (hclosing : r.1.point.isClosing = true) :
    s.isCancelled f.shutdown = true := by
  have hgoesOn : ∀ {point : DedicatedPoint}, point.isClosing = false → point.isClosing = true → False :=
    fun hnot hthis => Bool.false_ne_true (hnot.symm.trans hthis)
  cases step_loopStep hstep with
  | waits _ => exact (hgoesOn hbefore hclosing).elim
  | begins _ =>
    have hsaid := s.logsOnly_report .debug "single-source control loop started" [f.providerField]
    exact hsaid.same (·.isCancelled f.shutdown) (fun _ _ _ => rfl) ▸ turn_closes hclosing
  | wakes _ => exact turn_closes (s := s.drainBoard f.board f.receiver) hclosing
  | closes _ hcancelled => exact hcancelled
  | finishes hpoint =>
    rw [hpoint] at hbefore
    exact absurd hbefore (by simp [DedicatedPoint.isClosing])
  | @receives call result s₁ _ _ _ => cases result <;> exact (hgoesOn rfl hclosing).elim
  | resumes _ | disposed _ => exact (hgoesOn (f.isClosing_pass s) hclosing).elim
  | judges _ _ isAlive _ => cases isAlive <;> exact (hgoesOn rfl hclosing).elim
  | chooses _ _ _ _ =>
    unfold choose at hclosing
    split at hclosing <;> exact (hgoesOn rfl hclosing).elim
  | places _ _ _ =>
    unfold place at hclosing
    split at hclosing <;> exact (hgoesOn (isClosing_pass _ _) hclosing).elim
  | _ => exact (hgoesOn rfl hclosing).elim

theorem pass_not_panicked (f : Dedicated) (s : Scene) : (f.pass s).1.point ≠ .panicked := by
  unfold pass
  split
  · exact DedicatedPoint.noConfusion
  · split <;> exact DedicatedPoint.noConfusion

theorem close_not_panicked (f : Dedicated) (s : Scene) : (f.close s).1.point ≠ .panicked := by
  rcases f.close_point s with hpoint | hpoint <;> simp [hpoint]

theorem turn_not_panicked (f : Dedicated) (s : Scene) : (f.turn s).1.point ≠ .panicked := by
  unfold turn
  split
  · exact f.close_not_panicked s
  · exact f.pass_not_panicked s

/-- The loop is brought down only by a call that panics as it looks at it. -/
theorem step_panics {r : Dedicated × Scene} (hstep : f.step me s = some r)
    (hpanicked : r.1.point = .panicked) : f.IsBroughtDown s := by
  cases step_loopStep hstep with
  | waits _ => exact absurd (not_isOver_of_step hstep) (by simp [isOver, show f.point = _ from hpanicked])
  | begins _ | wakes _ => exact absurd hpanicked (turn_not_panicked _ _)
  | closes _ _ => exact absurd hpanicked (close_not_panicked _ _)
  | @receives call result s₁ hpoint _ hlook =>
    cases result with
    | core core => exact absurd hpanicked DedicatedPoint.noConfusion
    | failed chain => exact absurd hpanicked DedicatedPoint.noConfusion
    | panicked => exact ⟨call, s₁, hpoint, hlook⟩
  | resumes _ | disposed _ => exact absurd hpanicked (pass_not_panicked _ _)
  | judges _ _ isAlive _ => cases isAlive <;> exact absurd hpanicked DedicatedPoint.noConfusion
  | chooses _ _ _ _ =>
    unfold choose at hpanicked
    split at hpanicked <;> exact absurd hpanicked DedicatedPoint.noConfusion
  | places _ _ _ =>
    unfold place at hpanicked
    split at hpanicked <;> exact absurd hpanicked (pass_not_panicked _ _)
  | _ => exact absurd hpanicked DedicatedPoint.noConfusion

end Dedicated

namespace World

variable {chance : Chance} {w : World} {m : Move} {i : Nat} {kind : DedicatedPoint → Prop}

/-- The loop of the dedicated fulfiller `i` stands at a point of some kind. -/
def StandsAt (w : World) (i : Nat) (kind : DedicatedPoint → Prop) : Prop :=
  ∃ f, w.dedicated[i]? = some f ∧ kind f.point

end World

section Run

variable (chance : Chance) (moves : List Move) {i : Nat} {f : Dedicated}

/-- In every run a loop that stands at a point of some kind, at which it does not begin, came to such a point
by a step of its own. -/
theorem run_came_to_stand (kind : DedicatedPoint → Prop) (hstart : ¬ kind .starting)
    (hf : (run chance moves).world.dedicated[i]? = some f) (hkind : kind f.point) :
    ∃ before later g r, moves = before ++ .step (.dedicated i) :: later ∧
      (run chance before).world.dedicated[i]? = some g ∧ ¬ kind g.point ∧
      g.step i (run chance before).world.scene = some r ∧ kind r.1.point ∧
      g.shutdown = f.shutdown := by
  obtain ⟨before, m, later, rfl, hnot, hsince⟩ := exists_onset chance (P := fun w => w.StandsAt i kind)
    (fun ⟨g, hg, _⟩ => absurd hg (by simp)) moves ⟨f, hf, hkind⟩
  obtain ⟨g', hg', hthere⟩ := hsince.first
  have hmoves : before ++ m :: later = (before ++ [m]) ++ later := by simp
  obtain ⟨f', hf', hlasts⟩ := dedicated_lasts hg' later
  rw [← hmoves, hf, Option.some.injEq] at hf'
  subst hf'
  rw [run_concat chance before m] at hg'
  obtain ⟨g, rfl, hg, hstep, hsteps⟩ := World.dedicated_onset (P := (kind ·.point)) (fun _ _ h => h)
    (fun _ _ hpoint => by rwa [hpoint]) (run_isSound chance before) hg' hthere
    (fun g hg h => hnot ⟨g, hg, h⟩)
  refine ⟨before, later, g, _, rfl, hg, fun h => hnot ⟨g, hg, h⟩, hstep, hthere, ?_⟩
  rw [hlasts.shutdown, hsteps.flow.same]

/-- In every run, a loop that is over ended after its shutdown was fired, or was brought down by a call
that panicked as the loop looked at it. -/
theorem dedicated_stops_only
    (hf : (run chance moves).world.dedicated[i]? = some f) (hover : f.isOver = true) :
    (f.point = .ended ∧ (run chance moves).world.scene.isCancelled f.shutdown = true) ∨
      (f.point = .panicked ∧ ∃ before later g, moves = before ++ .step (.dedicated i) :: later ∧
        (run chance before).world.dedicated[i]? = some g ∧
          g.IsBroughtDown (run chance before).world.scene) := by
  rw [Dedicated.isOver, Bool.or_eq_true, beq_iff_eq, beq_iff_eq] at hover
  rcases hover with hended | hpanicked
  · have hclosing : f.point.isClosing = true := by
      rw [hended]
      rfl
    obtain ⟨before, later, g, r, rfl, -, hbefore, hstep, hclosed, hshutdown⟩ :=
      run_came_to_stand chance moves (·.isClosing = true) (by simp [DedicatedPoint.isClosing]) hf
        hclosing
    have hcancelled := Dedicated.step_closes hstep (Bool.eq_false_iff.mpr hbefore) hclosed
    rw [hshutdown] at hcancelled
    exact .inl ⟨hended, (run_precedes chance before (_ :: later)).isCancelled hcancelled⟩
  · obtain ⟨before, later, g, r, hmoves, hg, -, hstep, hdown, -⟩ :=
      run_came_to_stand chance moves (· = .panicked) DedicatedPoint.noConfusion hf hpanicked
    exact .inr ⟨hpanicked, before, later, g, hmoves, hg, Dedicated.step_panics hstep hdown⟩

end Run

/-! ## A provider that panics -/

/-- The only provider of a fulfiller panics while a request waits that nobody else serves. -/
def panickedRun : List Move :=
  [Move.found, .enlist "P" "p" (.scripted [{ course := .panic }] { free := 0 }),
    .begin (.create 0 .requireLocal 1 [] none false), .step (.errand 0), .step (.errand 0),
    .dedicated 0 0 ⟨0, "p"⟩ {}] ++ List.replicate 3 (Move.step (.dedicated 0))

/-- For every fulfiller whether it is over, and whether it was shut down. -/
def World.stops (w : World) : List (Bool × Bool) :=
  w.dedicated.map fun f => (f.isOver, w.scene.isCancelled f.shutdown)

/-- The loop is over though nobody shut it down, and the request waits on. -/
theorem loop_over_after_panic :
    (run .plain panickedRun).world.stops = [(true, false)] ∧
      (run .plain panickedRun).world.scene.boards.map (·.registry.statistics) = [⟨1, 0, 0, 0⟩] := by
  decide +kernel

/-- There it was the call of the loop that panicked. -/
theorem stops_only_of_panic : ∃ f, (run .plain panickedRun).world.dedicated[0]? = some f ∧
    f.isOver = true ∧
    ((f.point = .ended ∧ (run .plain panickedRun).world.scene.isCancelled f.shutdown = true) ∨
      (f.point = .panicked ∧ ∃ before later g, panickedRun = before ++ .step (.dedicated 0) :: later ∧
        (run .plain before).world.dedicated[0]? = some g ∧
          g.IsBroughtDown (run .plain before).world.scene)) := by
  have hover : ((run .plain panickedRun).world.dedicated[0]?).any (·.isOver) = true := by
    decide +kernel
  obtain ⟨f, hf, hthis⟩ := (Option.any_eq_true _ _).mp hover
  exact ⟨f, hf, hthis, dedicated_stops_only .plain panickedRun hf hthis⟩

end CoreBroker
