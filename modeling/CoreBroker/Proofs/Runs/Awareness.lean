import CoreBroker.Proofs.Runs.Listeners
set_option autoImplicit false

/-!
# What fulfillers know in a run

In every run in which only fulfillers reserve the requests of a registry, every fulfiller of the registry
is aware of what it has to know, whatever happens in which order.
-/

namespace CoreBroker

/-- In the whole run, whoever reserved requests of the registry `b` was a task of a fulfiller. -/
def Chronicle.ReservedByFulfillers (c : Chronicle) (b : Nat) : Prop :=
  ∀ d ∈ c.deeds, d.event.reservesIn b = true → d.actor.any (!·.isErrand) = true

instance (c : Chronicle) (b : Nat) : Decidable (c.ReservedByFulfillers b) :=
  inferInstanceAs (Decidable (∀ d ∈ c.deeds, _))

/-- What holds of a run holds of its last transition, and of the run before it. -/
theorem Chronicle.ReservedByFulfillers.of_after {c : Chronicle} {actor : Option Task}
    {events : List Event} {w' : World} {b : Nat} (h : (c.after actor events w').ReservedByFulfillers b) :
    (∀ e ∈ events, e.reservesIn b = true → actor.any (!·.isErrand) = true) ∧
      c.ReservedByFulfillers b := by
  refine ⟨fun e he => ?_, fun d hd => h d (List.mem_append_right _ hd)⟩
  exact h ⟨actor, e⟩ (List.mem_append_left _ (List.mem_map_of_mem he))

/-- Nobody holds a reservation of a request of the registry `b`. -/
def World.IsUnreserved (w : World) (b : Nat) : Prop :=
  (∀ lock ∈ w.locks, lock.board ≠ b) ∧ ∀ f ∈ w.dedicated, f.board = b → f.claim? = none

instance (w : World) (b : Nat) : Decidable (w.IsUnreserved b) :=
  inferInstanceAs (Decidable (_ ∧ ∀ f ∈ w.dedicated, _))

theorem World.IsUnreserved.not_reserves {w : World} {b : Nat} (hw : w.IsUnreserved b) (id : Nat) :
    ¬ w.Reserves b id := by
  rintro (hlocked | ⟨i, f, hf, hboard, core, hclaim⟩)
  · obtain ⟨lock, hlock, hsame⟩ := List.countP_pos_iff.mp hlocked
    simp only [Bool.and_eq_true, beq_iff_eq] at hsame
    exact hw.1 lock hlock hsame.1
  · exact absurd hclaim (by simp [hw.2 f (List.mem_of_getElem? hf) hboard])

theorem Dedicated.IsAware.of_bare {f f' : Dedicated} {s : Scene} (haware : f.IsAware s)
    (hbare : f'.bare = f.bare) : f'.IsAware s := by
  rw [Dedicated.eq_of_bare hbare]
  exact ⟨haware.served, haware.knows⟩

theorem Speculative.IsAware.of_bare {f f' : Speculative} {me : Nat} {st : Stage}
    (haware : f.IsAware me st) (hbare : f'.bare = f.bare)
    (hguard : f.guard.holder = some (.speculative me) → f'.guard.holder = some (.speculative me)) :
    f'.IsAware me st := by
  obtain ⟨sink, guard, rfl⟩ : ∃ sink guard, f' = { f with sink, guard } :=
    ⟨_, _, Speculative.eq_of_bare hbare⟩
  exact ⟨haware.served, haware.known, fun hpass => hguard (haware.guarded hpass), haware.tracks,
    haware.knows.of_same rfl id⟩

namespace World.Transition

variable {chance : Chance} {w w' : World} {actor : Option Task} {events : List Event} {i b : Nat}

/-- Whatever happens leaves a dedicated fulfiller aware. -/
theorem dedicated_isAware (hw : w.IsSound) (hapart : w.IsApart)
    (h : Transition chance w actor events w')
    (hkeeps : (∀ t, actor = some t → t.isErrand = true) → ∀ id, .changed b (.unreserved id) ∉ events)
    (hbefore : ∀ f, w.dedicated[i]? = some f → f.board = b → f.IsAware w.scene) {f : Dedicated}
    (hf : w'.dedicated[i]? = some f) (hb : f.board = b) : f.IsAware w'.scene := by
  rcases h.dedicatedTransition hw i with ⟨-, hg, hf', hstep, hsteps⟩ | ⟨hactor, hsame⟩ |
    ⟨-, -, hf', -, hpoint, hserved⟩
  · rw [hf] at hf'
    cases hf'
    have hsame : f.board = _ := congrArg Dedicated.board hsteps.flow.same
    exact Dedicated.step_aware hw.scene.stage (hw.dedicated _ (List.mem_of_getElem? hg))
      (hbefore _ hg (hsame.symm.trans hb)) hstep
  · obtain ⟨g, hg, hbare⟩ := exists_of_map_eq hsame hf
    have hgb : g.board = b := (congrArg Dedicated.board hbare.symm).trans hb
    obtain ⟨may, hacts, hspares⟩ := h.doneBy.sparesDedicated hapart hg hactor (hgb ▸ hkeeps)
    have hlater : g.IsAware w'.scene := (hbefore g hg hgb).later hacts.precedes fun hserved =>
      ⟨hacts.servesBoard (fun _ _ hmay => (hspares _ _ hmay).not_leaves) hserved,
        hacts.calm hw.scene.stage hspares hserved⟩
    exact hlater.of_bare hbare
  · rw [hf] at hf'
    cases hf'
    exact ⟨fun _ => hserved, .elsewhere (by simp [hpoint]) (by simp [hpoint])⟩

/-- Whatever happens leaves a speculative fulfiller aware. -/
theorem speculative_isAware (hw : w.IsSound) (hapart : w.IsApart)
    (h : Transition chance w actor events w')
    (hkeeps : (∀ t, actor = some t → t.isErrand = true) → ∀ id, .changed b (.unreserved id) ∉ events)
    (hbefore : ∀ f, w.speculative[i]? = some f → f.board = b → f.IsAware i w.scene.stage)
    {f : Speculative} (hf : w'.speculative[i]? = some f) (hb : f.board = b) :
    f.IsAware i w'.scene.stage := by
  rcases h.speculativeTransition hw i with ⟨-, hg, hf', htakes, haccounts⟩ | ⟨hactor, hsame, hguard⟩ |
    ⟨-, -, hf', hstates, -, -, -, hpoint, hserved⟩
  · rw [hf] at hf'
    cases hf'
    have hsame : f.board = _ := congrArg Speculative.board haccounts.same
    have haware := hbefore _ hg (hsame.symm.trans hb)
    have hids := (hw.speculative _ (List.mem_of_getElem? hg)).ids
    rcases htakes with hstep | ⟨a, -, hstep⟩
    · exact Speculative.step_aware hw.scene.stage hids haware hstep
    · obtain ⟨hattempted, hstage⟩ := Speculative.stepAttempt_attempted hids hstep
      rw [hstage]
      exact hattempted.aware haware
  · obtain ⟨g, hg, hbare⟩ := exists_of_map_eq hsame hf
    have hgb : g.board = b := (congrArg Speculative.board hbare.symm).trans hb
    obtain ⟨may, hacts, hspares⟩ := h.doneBy.sparesSpeculative hapart hg hactor (hgb ▸ hkeeps)
    have hlater : g.IsAware i w'.scene.stage := (hbefore g hg hgb).later
      (fun p hp => hacts.mem_providers hp) fun hserved =>
        ⟨hacts.isServed (fun _ _ hmay => (hspares _ _ hmay).not_leaves) hserved,
          hacts.notices hw.scene.stage hspares hserved⟩
    exact hlater.of_bare hbare (hguard g f hg hf)
  · rw [hf] at hf'
    cases hf'
    refine .elsewhere ?_ ?_ (fun _ => hserved) fun o ho => ?_
    · rw [hpoint]
      rfl
    · rw [hpoint]
      rfl
    · rw [hstates] at ho
      exact absurd ho List.not_mem_nil

end World.Transition

/-! ## Every run -/

/-- The client holds no reservation of the registry `b`, and every fulfiller of it is aware. -/
structure World.IsAware (w : World) (b : Nat) : Prop where
  unlocked : ∀ id, w.locked b id = 0
  dedicated : ∀ (i : Nat) (f : Dedicated), w.dedicated[i]? = some f → f.board = b →
    f.IsAware w.scene
  speculative : ∀ (i : Nat) (f : Speculative), w.speculative[i]? = some f → f.board = b →
    f.IsAware i w.scene.stage

section Run

variable (chance : Chance) (moves : List Move)

theorem run_isApart : (run chance moves).world.IsApart := by
  refine run_keeps chance (P := fun c => c.world.IsApart) ?_ ?_ moves
  · exact ⟨List.nodup_nil, List.nodup_nil, fun _ h => absurd h List.not_mem_nil,
      fun _ h => absurd h List.not_mem_nil⟩
  · exact fun c actor events w' _ htransition hapart => htransition.isApart hapart

/-- In every run in which only fulfillers reserve requests every fulfiller is aware. -/
theorem run_isAware {b : Nat} (hreserved : (run chance moves).ReservedByFulfillers b) :
    (run chance moves).world.IsAware b := by
  -- Who has reserved what is known of the whole run only, so it stays a premise of what is kept.
  refine (run_keeps chance (P := fun c => c.world.IsApart ∧
    (c.ReservedByFulfillers b → c.world.IsAware b)) ?_ ?_ moves).2 hreserved
  · refine ⟨run_isApart chance [], fun _ => ⟨fun _ => rfl, fun i f hf => ?_, fun i f hf => ?_⟩⟩
    · exact absurd hf (by simp)
    · exact absurd hf (by simp)
  · rintro c actor events w' hsound htransition ⟨hapart, haware⟩
    refine ⟨htransition.isApart hapart, fun hreserved => ?_⟩
    obtain ⟨hthis, hearlier⟩ := hreserved.of_after
    obtain ⟨hunlocked, hdedicated, hspeculative⟩ := haware hearlier
    obtain ⟨hunlocked', hkeeps⟩ := htransition.doneBy.locked_eq_zero hthis hunlocked
    exact ⟨hunlocked', fun i f hf hb => htransition.dedicated_isAware hsound hapart hkeeps
      (hdedicated i) hf hb, fun i f hf hb => htransition.speculative_isAware hsound hapart hkeeps
        (hspeculative i) hf hb⟩

/-- A registry of which nobody holds a reservation has no waiting request that is reserved. -/
theorem isFree_of_isUnreserved {b : Nat} {g : Registry Core} {changes : Channel Statistics}
    (hboard : (run chance moves).world.scene.stage.boards[b]? = some (g, changes))
    (hnone : (run chance moves).world.IsUnreserved b) : g.IsFree := by
  intro r hr
  by_contra hreserved
  refine hnone.not_reserves r.id (reserves_of_isMarked chance moves ⟨g, changes, hboard, r, ?_, rfl, ?_⟩)
  · exact (Registry.mem_waiting.mp hr).1
  · simpa using hreserved

end Run

end CoreBroker
