import CoreBroker.Proofs.Runs.Oversight
set_option autoImplicit false

/-!
# The cores of a speculative fulfiller

What the loop and the attempts of a speculative fulfiller have done up to any moment of a run accounts
for every core that a provider handed out to an attempt, whichever of them took their steps when.

A core counts as disposed of from the moment the fulfiller turns to disposing of it, and then the loop or
the attempt waits until that is done.  Cores that are to be disposed of go one after the other.  Those of a
pass are meanwhile in the hands of the pass; those that are given up after the shutdown are in the hands of
the loop that gives everything up, which is no pass any more.
-/

namespace CoreBroker

namespace SpeculativePoint

/-- The cores that the pass under way has in its hands. -/
def passCores : SpeculativePoint → List Core
  | .dissolving _ => []
  | point => point.cores

/-- The cores that were given up and wait for their turn to be disposed of. -/
def givenUp : SpeculativePoint → List Core
  | .dissolving others => others
  | _ => []

theorem cores_eq (point : SpeculativePoint) : point.cores = point.passCores ++ point.givenUp := by
  cases point <;> simp [cores, passCores, givenUp]

end SpeculativePoint

/-- What the tasks of a fulfiller have done accounts for the cores they have. -/
def Speculative.Balanced (f : Speculative) (done : List Event) : Prop :=
  ∀ core, f.held core + spent core done = done.count (.minted core)

namespace Speculative

variable {f f' : Speculative} {s s' : Scene} {events done : List Event}

/-- Every step that is accounted for is balanced. -/
theorem Accounts.balanced (haccounts : f.Accounts s events f' s') (hdone : f.Balanced done) :
    f'.Balanced (events ++ done) := by
  intro core
  have hstep := haccounts.balance core
  have hbefore := hdone core
  rw [spent_append, List.count_append]
  omega

/-- How often a core is in the hands of the pass under way. -/
def inPass (f : Speculative) (core : Core) : Nat := f.point.passCores.count core

/-- How often a core was given up and waits for its turn to be disposed of. -/
def inRelease (f : Speculative) (core : Core) : Nat := f.point.givenUp.count core

theorem inLoop_eq (f : Speculative) (core : Core) : f.inLoop core = f.inPass core + f.inRelease core := by
  rw [inLoop, f.point.cores_eq, List.count_append]
  rfl

/-- Once everything has been given up no obtainment has a core. -/
theorem IsSound.tracked_of_released {bound : Nat} (hsound : f.IsSound bound)
    (hreleased : f.point.isReleased = true) (core : Core) : f.tracked core = 0 := by
  refine List.countP_eq_zero.mpr fun o ho hholds => ?_
  rw [Obtainment.holds_of_isIdle (hsound.released hreleased o ho)] at hholds
  exact absurd hholds Bool.false_ne_true

/-- A fulfiller that is over has no attempts and no cores. -/
theorem IsSound.of_isOver {bound : Nat} (hsound : f.IsSound bound) (hover : f.isOver = true) :
    f.attempts = [] ∧ ∀ core, f.held core = 0 := by
  have hpoint : f.point = .ended := by simpa [isOver] using hover
  have hattempts := hsound.ended hpoint
  refine ⟨hattempts, fun core => ?_⟩
  rw [held, hsound.tracked_of_released (by rw [hpoint]; rfl), delivered, hattempts, inLoop, hpoint]
  rfl

end Speculative

/-- What the chronicle of a run says about the cores of the speculative fulfiller `i`, which is `f`. -/
structure Speculative.Ownership (c : Chronicle) (i : Nat) (f : Speculative) : Prop where
  /-- Whatever a provider handed out to an attempt is about to be delivered, is in an obtainment or in
  the pass under way, was assigned, or was disposed of or given up to be disposed of in its turn. -/
  accounted : ∀ core, f.delivered core + f.tracked core + f.inPass core +
      (c.doneBy (Task.isOfTeam i)).countP (·.assigns core) +
      ((c.doneBy (Task.isOfTeam i)).count (.disposed core) + f.inRelease core) =
    (c.doneBy (Task.isOfTeam i)).count (.minted core)
  /-- No core was handed out twice, so that it is accounted for in one way and once. -/
  once : ∀ core, (c.doneBy (Task.isOfTeam i)).count (.minted core) ≤ 1
  /-- A core waits for its turn only after the shutdown was fired, when no obtainment and no pass has any
  core any more. -/
  releasing : ∀ core, 0 < f.inRelease core → c.world.scene.isCancelled f.shutdown = true ∧
    ∀ other, f.tracked other = 0 ∧ f.inPass other = 0
  /-- Once the shutdown has returned no attempt is left. -/
  joined : .stopped (.speculative i) ∈ c.world.scene.story → f.attempts = []
  /-- Every core was assigned or disposed of by then. -/
  released : .stopped (.speculative i) ∈ c.world.scene.story → ∀ core,
    (c.doneBy (Task.isOfTeam i)).countP (·.assigns core) +
        (c.doneBy (Task.isOfTeam i)).count (.disposed core) =
      (c.doneBy (Task.isOfTeam i)).count (.minted core)

section Run

variable (chance : Chance) (moves : List Move) {i : Nat} {f : Speculative}

/-- What the tasks of a fulfiller have done in a run accounts for the cores they have. -/
theorem speculative_balanced (hf : (run chance moves).world.speculative[i]? = some f) :
    f.Balanced ((run chance moves).doneBy (Task.isOfTeam i)) := by
  refine (run_keeps chance (P := fun c =>
    (c.world.speculative[i]? = none → c.doneBy (Task.isOfTeam i) = []) ∧
      ∀ f, c.world.speculative[i]? = some f → f.Balanced (c.doneBy (Task.isOfTeam i)))
    ?_ ?_ moves).2 f hf
  · exact ⟨fun _ => rfl, fun f hf => absurd hf (by simp)⟩
  · rintro c actor events w' hsound htransition ⟨hnone, hbalanced⟩
    rw [Chronicle.doneBy_after]
    show (w'.speculative[i]? = none → _) ∧ ∀ f, w'.speculative[i]? = some f → _
    rcases htransition.speculativeTransition hsound i with ⟨hactor, hg, hg', -, haccounts⟩ |
      ⟨hactor, hsame, -⟩ | ⟨hactor, hbefore, hg', hstates, hattempts, -, -, hpoint, -⟩
    · refine ⟨fun h => absurd h (by simp [hg']), fun f hf => ?_⟩
      rw [hg'] at hf
      cases hf
      rw [if_pos hactor]
      exact haccounts.balanced (hbalanced _ hg)
    · rw [if_neg (by simp [hactor])]
      refine ⟨fun h => hnone (by simpa [h] using hsame.symm), fun f hf => ?_⟩
      obtain ⟨g, hg, hbare⟩ := exists_of_map_eq hsame hf
      rw [Speculative.eq_of_bare hbare]
      exact hbalanced g hg
    · rw [if_neg (by simp [hactor]), hnone hbefore]
      refine ⟨fun h => absurd h (by simp [hg']), fun f hf core => ?_⟩
      rw [hg'] at hf
      cases hf
      simp [Speculative.held, Speculative.delivered, Speculative.tracked, Speculative.inLoop,
        hstates, hattempts, hpoint, SpeculativePoint.cores]

end Run

/-- A speculative fulfiller obtains a core for the only request, assigns it, and is shut down. -/
def deliveredRun : List Move :=
  [Move.found, .enlist "P" "p" (.scripted [{ course := .core }] { free := 0 }), .add 0 0,
    .speculative 0 0 {}, .begin (.create 0 .preferRemote 1 [] none false),
    .step (.errand 1), .step (.errand 1)] ++ List.replicate 4 (Move.step (.speculative 0)) ++
  [Move.step (.attempt 0 4), .step (.attempt 0 4)] ++ List.replicate 9 (Move.step (.speculative 0)) ++
  [Move.begin (.shutDown false false [.speculative 0 false]), .step (.errand 8)] ++
  List.replicate 4 (Move.step (.speculative 0)) ++ [Move.step (.errand 8)]

/-- Two providers have brought a core each when the fulfiller is shut down, and the loop waits until the first
core has been disposed of. -/
def releasedRun : List Move :=
  [Move.found, .enlist "P" "p" (.scripted [{ course := .core }] { free := 0 }), .add 0 0,
    .enlist "Q" "q" (.scripted [{ course := .core }] { free := 0 }), .add 0 1,
    .speculative 0 0 { slack := 1 }, .begin (.create 0 .preferRemote 2 [] none false),
    .step (.errand 1), .step (.errand 1)] ++ List.replicate 4 (Move.step (.speculative 0)) ++
  [Move.step (.attempt 0 4), .step (.attempt 0 4), .step (.attempt 0 7), .step (.attempt 0 7),
    .begin (.shutDown false false [.speculative 0 false]), .step (.errand 11)] ++
  List.replicate 2 (Move.step (.speculative 0))

end CoreBroker
