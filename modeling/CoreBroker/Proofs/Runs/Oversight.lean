import CoreBroker.Proofs.Runs.Fulfillers
import CoreBroker.Proofs.Speculative.Oversight
import CoreBroker.Proofs.Speculative.Stopping
set_option autoImplicit false

/-!
# No provider is stuck

In every run, until its shutdown is fired, a fulfiller that takes a provider for being asked has an attempt
that asks it, or has still to record that this attempt has panicked.  So once all attempts have ended and
their exits are recorded, no provider is taken for being asked any more.
-/

namespace CoreBroker

namespace Speculative

variable {chance : Chance} {f f' : Speculative} {s s' : Scene} {a : Attempt} {me : Nat}
  {seen : List Owner}

/-- What holds of a fulfiller, whatever its tasks do and in whatever order: it heeds its shutdown, and
oversees its attempts until it gives everything up. -/
structure Watches (seen : List Owner) (s : Scene) (f : Speculative) : Prop where
  heeds : f.Heeds s
  oversees : f.point.isReleased = false → f.Oversees seen s.nextSerial

/-- Until its shutdown is fired a fulfiller oversees its attempts. -/
theorem Watches.oversees_of_running (h : f.Watches seen s)
    (hrunning : s.isCancelled f.shutdown = false) : f.Oversees seen s.nextSerial := by
  refine h.oversees (Bool.eq_false_iff.mpr fun hreleased => ?_)
  have hstopping := SpeculativePoint.isStopping_of_isReleased hreleased
  exact absurd (hrunning.symm.trans (h.heeds hstopping)) Bool.false_ne_true

/-- The sink of a fulfiller is nothing it watches, nor is the guard of its obtainments. -/
theorem Watches.of_bare (h : f.Watches seen s) (hprecedes : s.Precedes s') (hbare : f'.bare = f.bare) :
    f'.Watches seen s' := by
  obtain ⟨sink, guard, rfl⟩ : ∃ sink guard, f' = { f with sink, guard } :=
    ⟨_, _, Speculative.eq_of_bare hbare⟩
  refine ⟨h.heeds.later hprecedes rfl rfl, fun hreleased => ?_⟩
  have hoversees : ({ f with sink, guard } : Speculative).Oversees seen s.nextSerial :=
    (h.oversees hreleased).along rfl rfl rfl fun _ hx =>
      ⟨hx, fun _ hmem _ => hmem, fun _ hpoint _ => hpoint⟩
  exact hoversees.mono hprecedes.serial

/-- A loop that has given everything up does not go back. -/
theorem isReleased_of_step {r : Speculative × Scene} (hreleased : f.point.isReleased = true)
    (hstep : f.step chance me s = some r) : r.1.point.isReleased = true := by
  cases hpoint : f.point with
  | dissolving others =>
    simp only [step, hpoint, Option.some.injEq] at hstep
    rw [← hstep, disposeInTurn_eq]
    exact SpeculativePoint.isReleased_inTurn others
  | joining =>
    simp only [step, hpoint] at hstep
    split at hstep
    · cases hstep
      rfl
    · split at hstep
      · cases hstep
        rfl
      · exact absurd hstep (by simp)
  | ended => simp [step, hpoint] at hstep
  | _ =>
    rw [hpoint] at hreleased
    exact absurd hreleased Bool.false_ne_true

/-- Every step of the loop goes on watching. -/
theorem step_watches (hids : f.states.ids.Nodup) (h : f.Watches seen s) {r : Speculative × Scene}
    (hstep : f.step chance me s = some r) (hprecedes : s.Precedes r.2)
    (hshutdown : r.1.shutdown = f.shutdown) : r.1.Watches seen r.2 where
  heeds := step_heeds hids h.heeds hstep hprecedes hshutdown
  oversees hreleased := by
    have hbefore : f.point.isReleased = false := Bool.eq_false_iff.mpr fun hbefore =>
      absurd (hreleased.symm.trans (isReleased_of_step hbefore hstep)) Bool.false_ne_true
    exact step_oversees hids (h.oversees hbefore) hstep hprecedes.serial hreleased

/-- Every step of an attempt leaves the loop where it is. -/
theorem stepAttempt_watches (hsound : f.IsSound s.nextSerial) (h : f.Watches seen s)
    (ha : a ∈ f.attempts) {r : Speculative × Scene} (hstep : f.stepAttempt me a s = some r)
    (hprecedes : s.Precedes r.2) : r.1.Watches seen r.2 := by
  obtain ⟨g, s'⟩ := r
  obtain ⟨hpoint, hshutdown⟩ : g.point = f.point ∧ g.shutdown = f.shutdown := by
    cases (stepAttempt_attempted hsound.ids hstep).1 with
    | goesOn _ => exact ⟨rfl, rfl⟩
    | exits _ => exact ⟨rfl, rfl⟩
    | refused _ => exact ⟨rfl, rfl⟩
    | settles _ _ _ => exact ⟨rfl, rfl⟩
  refine ⟨h.heeds.later hprecedes hpoint hshutdown, fun hreleased => ?_⟩
  rw [hpoint] at hreleased
  have hoversees := h.oversees hreleased
  exact (stepAttempt_oversees hsound.ids hsound.serials hoversees ha hstep).mono hprecedes.serial

/-- What the obtainments say, what is under way and what the loop knows of it agree. -/
structure IsOverseen (f : Speculative) : Prop where
  /-- Where a provider is asked under a number, an attempt with this number asks this very provider, or has
  panicked and the loop has not recorded it yet. -/
  answered : ∀ o ∈ f.states, ∀ number token, o.phase = .obtaining number token →
    f.Answers (o.provider, number)
  /-- There is one owner for each attempt under way and each exit that was not noticed, and no other. -/
  serials : (f.owners.map (·.serial)).Perm (f.attempts.map (·.serial) ++ f.exits.map (·.serial))
  nodup : (f.owners.map (·.serial)).Nodup
  owned : ∀ a ∈ f.attempts, ⟨a.serial, a.provider, a.number⟩ ∈ f.owners

/-- Nothing is under way, and no exit is left to be recorded. -/
structure IsCleared (f : Speculative) : Prop where
  attempts : f.attempts = []
  exits : f.exits = []
  recorded : ∀ owner, f.point ≠ .recording owner

theorem Oversees.isOverseen {bound : Nat} (h : f.Oversees seen bound) : f.IsOverseen where
  answered o ho number token hphase :=
    h.answered _ (States.mem_asked.mpr ⟨o, ho, by rw [Obtainment.asked?, hphase]⟩)
  serials := by
    have hserials := h.serials
    rw [working, List.map_map] at hserials
    exact hserials
  nodup := h.nodup
  owned _ ha := h.owned (List.mem_map_of_mem ha)

/-- Once nothing is under way and nothing is left to be recorded, no provider is asked. -/
theorem IsOverseen.not_isObtaining (h : f.IsOverseen) (hcleared : f.IsCleared) :
    ∀ o ∈ f.states, o.isObtaining = false := by
  refine fun o ho => Bool.eq_false_iff.mpr fun hobtaining => ?_
  unfold Obtainment.isObtaining at hobtaining
  split at hobtaining
  · rename_i number token hphase
    cases h.answered o ho number token hphase with
    | working hmem _ =>
      rw [unreported, hcleared.attempts] at hmem
      exact absurd hmem List.not_mem_nil
    | panicked _ _ hexit =>
      rw [hcleared.exits] at hexit
      exact absurd hexit List.not_mem_nil
    | recording hpoint _ => exact hcleared.recorded _ hpoint
  · exact absurd hobtaining Bool.false_ne_true

end Speculative

/-! ## Every run -/

/-- The fulfiller `i`, once it is there, watches its attempts; nothing was seen of it before. -/
structure World.Watches (seen : List Owner) (i : Nat) (w : World) : Prop where
  unseen : w.speculative[i]? = none → seen = []
  watches : ∀ f, w.speculative[i]? = some f → f.Watches seen w.scene

/-- Whatever happens, a fulfiller goes on watching its attempts. -/
theorem World.Transition.watches {chance : Chance} {w w' : World} {actor : Option Task}
    {events : List Event} {seen : List Owner} {i : Nat} (hw : w.IsSound)
    (h : World.Transition chance w actor events w') (hbefore : w.Watches seen i) :
    w'.Watches seen i := by
  obtain ⟨may, hacts⟩ := h.acts
  have hprecedes := hacts.precedes
  rcases h.speculativeTransition hw i with ⟨-, hg, hf', htakes, haccounts⟩ | ⟨-, hsame, -⟩ |
    ⟨-, hnone, hf', hstates, hattempts, hexits, howners, hpoint, -⟩
  · refine ⟨fun hnone => ?_, fun f hf => ?_⟩
    · rw [hf'] at hnone
      exact absurd hnone (by simp)
    · rw [hf'] at hf
      cases hf
      have hsound := hw.speculative _ (List.mem_of_getElem? hg)
      rcases htakes with hstep | ⟨a, ha, hstep⟩
      · exact Speculative.step_watches hsound.ids (hbefore.watches _ hg) hstep hprecedes
          ((congrArg Speculative.shutdown haccounts.same).trans rfl)
      · exact Speculative.stepAttempt_watches hsound (hbefore.watches _ hg) ha hstep hprecedes
  · refine ⟨fun hnone => hbefore.unseen ?_, fun f hf => ?_⟩
    · rw [hnone, Option.map_none] at hsame
      exact Option.map_eq_none_iff.mp hsame.symm
    · obtain ⟨g, hg, hbare⟩ := exists_of_map_eq hsame hf
      exact (hbefore.watches g hg).of_bare hprecedes hbare
  · have hseen := hbefore.unseen hnone
    subst hseen
    refine ⟨fun _ => rfl, fun f hf => ?_⟩
    rw [hf'] at hf
    cases hf
    refine ⟨.of_not (by rw [hpoint]; rfl), fun _ => ?_⟩
    refine ⟨?_, ?_, ?_, ?_, ?_, ?_, ?_⟩
    · simp [howners, hexits, Speculative.working, hattempts]
    · simp [howners]
    · simp [howners]
    · simp [Speculative.working, hattempts]
    · simp [States.asked, hstates]
    · simp
    · simp

section Run

variable (chance : Chance) (moves : List Move)

theorem run_watches (i : Nat) : (run chance moves).world.Watches [] i := by
  refine run_keeps chance (P := fun c => c.world.Watches [] i) ?_ ?_ moves
  · exact ⟨fun _ => rfl, fun f hf => absurd hf (by simp)⟩
  · exact fun c actor events w' hsound htransition h => htransition.watches hsound h

/-- No provider is stuck: in every run, until its shutdown is fired, a fulfiller oversees its attempts.  What
it knows of those under way it knows unchanged for as long as it does, and once none is left no provider is
taken for being asked. -/
theorem speculative_attempts_overseen {i : Nat} {f : Speculative}
    (hf : (run chance moves).world.speculative[i]? = some f)
    (hrunning : (run chance moves).world.scene.isCancelled f.shutdown = false) :
    f.IsOverseen ∧
      (∀ (later : List Move) (f' : Speculative),
        (run chance (moves ++ later)).world.speculative[i]? = some f' →
        (run chance (moves ++ later)).world.scene.isCancelled f'.shutdown = false →
          ∀ a ∈ f.attempts, ∀ owner ∈ f'.owners, owner.serial = a.serial →
            owner = ⟨a.serial, a.provider, a.number⟩) ∧
      (f.IsCleared → ∀ o ∈ f.states, o.isObtaining = false) := by
  have hwatches := (run_watches chance moves i).watches f hf
  have hoverseen := (hwatches.oversees_of_running hrunning).isOverseen
  refine ⟨hoverseen, fun later f' hf' hrunning' a ha owner howner hserial => ?_,
    hoverseen.not_isObtaining⟩
  -- From here on the attempts that are under way now count as seen.
  have hsees : (run chance moves).world.Watches f.working i := by
    refine ⟨fun hnone => absurd (hf.symm.trans hnone) (by simp), fun g hg => ?_⟩
    rw [hf] at hg
    cases hg
    exact ⟨hwatches.heeds, fun hreleased => (hwatches.oversees hreleased).sees⟩
  have hlater : (run chance (moves ++ later)).world.Watches f.working i :=
    run_goes_on (P := fun c => c.world.Watches f.working i) hsees
      (fun c actor events w' hsound htransition h => htransition.watches hsound h) later
  exact ((hlater.watches f' hf').oversees_of_running hrunning').unchanged owner howner a.owner
    (List.mem_map_of_mem ha) hserial

end Run

/-- Two providers are asked, and the attempt on the second one has panicked while the loop waited. -/
def overseenRun : List Move :=
  [Move.found, .enlist "A" "a" (.scripted [] { free := 0 }),
    .enlist "B" "b" (.scripted [{ course := .panic }] { free := 0 }), .add 0 0, .add 0 1,
    .begin (.create 0 .preferRemote 1 [] none false), .step (.errand 0), .step (.errand 0),
    .speculative 0 0 { slack := 1 }] ++ List.replicate 6 (Move.step (.speculative 0)) ++
  List.replicate 2 (Move.step (.attempt 0 7))

/-- In that run two providers are taken for being asked: an attempt asks the one, and the panic of the
attempt on the other is still to be recorded. -/
theorem speculative_attempts_overseen_of_panic : ∃ f,
    (run .plain overseenRun).world.speculative[0]? = some f ∧ f.states.asked.length = 2 ∧
      f.attempts.length = 1 ∧ f.exits.map (·.isPanic) = [true] ∧ f.IsOverseen := by
  have hthere : (run .plain overseenRun).world.speculative[0]?.any (fun f =>
      f.states.asked.length == 2 && f.attempts.length == 1 && f.exits.map (·.isPanic) == [true] &&
        !(run .plain overseenRun).world.scene.isCancelled f.shutdown) = true := by decide +kernel
  obtain ⟨f, hf, hfacts⟩ := (Option.any_eq_true _ _).mp hthere
  simp only [Bool.and_eq_true, beq_iff_eq, Bool.not_eq_true'] at hfacts
  obtain ⟨⟨⟨hasked, hattempts⟩, hexits⟩, hrunning⟩ := hfacts
  exact ⟨f, hf, hasked, hattempts, hexits,
    (speculative_attempts_overseen .plain overseenRun hf hrunning).1⟩

end CoreBroker
