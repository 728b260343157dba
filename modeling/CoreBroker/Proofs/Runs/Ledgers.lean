import CoreBroker.Proofs.Dedicated.Ownership
import CoreBroker.Proofs.Scene.Slots
set_option autoImplicit false

/-!
# Ledgers of a run

What a run has told adds up: every core somebody has was made and did not go elsewhere, every core passed
to a request is on its way or has arrived, and what was put into slots is in them or was taken out.
-/

namespace CoreBroker

/-- How often the loop is placing the core in the request `id` of the registry `b`. -/
def Dedicated.placing (f : Dedicated) (b id : Nat) (core : Core) : Nat :=
  (f.claim?.any fun (c, n) => decide (f.board = b ∧ n = id ∧ c = core)).toNat

namespace World

/-- How often anybody has a core: the client, one of its calls, or a fulfiller. -/
def held (w : World) (core : Core) : Nat :=
  w.kept none core + (w.dedicated.map fun f => f.cores.count core).sum +
    (w.speculative.map fun f => f.held core).sum

/-- How often somebody is passing a core to the request `id` of the registry `b`. -/
def underWay (w : World) (b id : Nat) (core : Core) : Nat :=
  w.passing none b id core + (w.dedicated.map fun f => f.placing b id core).sum

end World

/-- A step passes the core that the loop was placing, or begins to place one. -/
theorem Dedicated.CoreFlow.placing_eq {f f' : Dedicated} {events : List Event}
    (hflow : f.CoreFlow events f') (b id : Nat) (core : Core) :
    f'.placing b id core + (events.count (.refused b id core) + events.count (.lost b id core) +
        events.count (.changed b (.assigned id core))) =
      f.placing b id core + events.count (.offered b id core) := by
  have hboard : f'.board = f.board := by
    rw [hflow.same]
  cases hflow with
  | along _ _ hclaim => simp [placing, hclaim, hboard]
  | received _ _ _ hfree hclaim => simp [placing, hfree, hclaim]
  | disposed _ _ _ hfree hclaim => simp [placing, hfree, hclaim]
  | offered _ _ _ hfree hclaim => simp [placing, hfree, hclaim, hboard, count_cons_toNat]
  | assigned _ _ _ hclaimed hclaim => simp [placing, hclaimed, hclaim, count_cons_toNat]
  | refused _ _ _ hclaimed hclaim => simp [placing, hclaimed, hclaim, count_cons_toNat]

/-! ## What one transition adds -/

namespace World

variable {chance : Chance} {w w' : World} {actor : Option Task} {events : List Event}

/-- A loop brings only what it makes. -/
theorem come_of_isOfLoop (hevents : ∀ e ∈ events, e.isOfLoop = true) (core : Core) :
    come core events = events.count (.minted core) := by
  have htakes : events.countP (·.takes core) = 0 :=
    countP_eq_zero_of_isOfLoop hevents fun e he => by
      unfold Event.takes at he
      split at he
      · rfl
      · exact absurd he Bool.false_ne_true
  have hcloses : events.countP (·.closes core) = 0 :=
    countP_eq_zero_of_isOfLoop hevents fun e he => by
      unfold Event.closes at he
      split at he
      · rfl
      · exact absurd he Bool.false_ne_true
  rw [come_eq, htakes, hcloses, Nat.add_zero]

/-- A loop loses nothing on the way. -/
theorem gone_of_isOfLoop (hevents : ∀ e ∈ events, e.isOfLoop = true) (core : Core) :
    gone core events = spent core events := by
  have hloses : events.countP (·.loses core) = 0 :=
    countP_eq_zero_of_isOfLoop hevents fun e he => by
      unfold Event.loses at he
      split at he
      · rfl
      · exact absurd he Bool.false_ne_true
  rw [gone_eq, hloses, Nat.add_zero]

theorem count_lost_of_isOfLoop (hevents : ∀ e ∈ events, e.isOfLoop = true) (b id : Nat)
    (core : Core) : events.count (.lost b id core) = 0 :=
  List.count_eq_zero.mpr fun hmem => Bool.false_ne_true (hevents _ hmem)

/-- Nobody has a core that did not come into somebody's hands or has gone out of them. -/
theorem Transition.held_le (h : Transition chance w actor events w') (core : Core) :
    w'.held core + gone core events ≤ w.held core + come core events := by
  cases h with
  | @dedicated i f f' s _ hf _ hsteps =>
    have hevents := Dedicated.isOfLoop_of_acts hsteps.acts
    have hcores := hsteps.flow.cores_eq core
    have hsum := sum_map_set hf f' fun f => f.cores.count core
    have hkept : World.kept { w with scene := s, dedicated := w.dedicated.set i f' } none core =
      w.kept none core := rfl
    rw [come_of_isOfLoop hevents, gone_of_isOfLoop hevents]
    simp only [held, hkept]
    omega
  | @speculative i f f' s _ hf _ haccounts =>
    have hevents := Speculative.isOfLoop_of_acts haccounts.acts
    have hbalance := haccounts.balance core
    have hsum := sum_map_set hf f' fun f => f.held core
    have hkept : World.kept { w with scene := s, speculative := w.speculative.set i f' } none core =
      w.kept none core := rfl
    rw [come_of_isOfLoop hevents, gone_of_isOfLoop hevents]
    simp only [held, hkept]
    omega
  | @attempt i f f' a s _ hf _ _ haccounts =>
    have hevents := Speculative.isOfLoop_of_acts haccounts.acts
    have hbalance := haccounts.balance core
    have hsum := sum_map_set hf f' fun f => f.held core
    have hkept : World.kept { w with scene := s, speculative := w.speculative.set i f' } none core =
      w.kept none core := rfl
    rw [come_of_isOfLoop hevents, gone_of_isOfLoop hevents]
    simp only [held, hkept]
    omega
  | client _ hclient =>
    have hcores := hclient.cores core
    have hdedicated := sum_map_of_bare hclient.dedicated
      (f := fun f => f.cores.count core) fun _ => rfl
    have hspeculative := sum_map_of_bare hclient.speculative
      (f := fun f => f.held core) fun _ => rfl
    simp only [held]
    omega
  | @employed f s _ _ hspare hpoint _ _ _ _ =>
    have hnone : f.cores = [] := by
      rw [Dedicated.cores_eq_core hspare, hpoint]
      rfl
    simp [held, kept, hnone]
  | @engaged f s _ _ _ _ hnew _ _ _ _ _ _ =>
    have hnone : f.held core = 0 := by
      rw [hnew]
      rfl
    simp [held, kept, hnone]

/-- What is passed to a request arrives, comes back, is lost or is on its way. -/
theorem Transition.underWay_eq (h : Transition chance w actor events w') (b id : Nat) (core : Core) :
    w'.underWay b id core + (events.count (.refused b id core) + events.count (.lost b id core) +
        events.count (.changed b (.assigned id core))) =
      w.underWay b id core + events.count (.offered b id core) := by
  have hsettled : ∀ {f : Speculative} {s : Scene} {f' : Speculative} {s' : Scene},
      f.Accounts s events f' s' → events.count (.refused b id core) +
        events.count (.lost b id core) + events.count (.changed b (.assigned id core)) =
          events.count (.offered b id core) := by
    intro f s f' s' haccounts
    have hlost := count_lost_of_isOfLoop (Speculative.isOfLoop_of_acts haccounts.acts) b id core
    have hsettled := haccounts.settled b id core
    omega
  cases h with
  | @dedicated i f f' s _ hf _ hsteps =>
    have hplacing := hsteps.flow.placing_eq b id core
    have hsum := sum_map_set hf f' fun f => f.placing b id core
    have hpassing : World.passing { w with scene := s, dedicated := w.dedicated.set i f' } none b id
      core = w.passing none b id core := rfl
    simp only [underWay, hpassing]
    omega
  | speculative _ _ haccounts => exact congrArg _ (hsettled haccounts)
  | attempt _ _ _ haccounts => exact congrArg _ (hsettled haccounts)
  | client _ hclient =>
    have hpassings := hclient.passings b id core
    have hdedicated := sum_map_of_bare hclient.dedicated
      (f := fun f => f.placing b id core) fun _ => rfl
    simp only [underWay]
    omega
  | @employed f s _ _ _ hpoint _ _ _ _ =>
    have hnone : f.placing b id core = 0 := by
      simp [Dedicated.placing, Dedicated.claim?, hpoint, DedicatedPoint.claim?]
    simp [underWay, passing, hnone]
  | engaged _ _ _ _ _ _ _ => rfl

/-- Errands dispose of what was in requests that were disposed of; nobody else disposes of requests. -/
theorem Transition.closes_eq (h : Transition chance w actor events w') (core : Core) :
    events.countP (·.closes core) =
      if actor.any Task.isErrand then events.count (.disposed core) else 0 := by
  have hloop : (∀ e ∈ events, e.isOfLoop = true) → events.countP (·.closes core) = 0 := by
    intro hevents
    refine countP_eq_zero_of_isOfLoop hevents fun e he => ?_
    unfold Event.closes at he
    split at he
    · rfl
    · exact absurd he Bool.false_ne_true
  cases h with
  | dedicated _ _ hsteps => exact hloop (Dedicated.isOfLoop_of_acts hsteps.acts)
  | speculative _ _ haccounts => exact hloop (Speculative.isOfLoop_of_acts haccounts.acts)
  | attempt _ _ _ haccounts => exact hloop (Speculative.isOfLoop_of_acts haccounts.acts)
  | client hactor hclient =>
    rw [hclient.closings core]
    cases actor with
    | none => rfl
    | some t =>
      obtain ⟨n, rfl⟩ := hactor t rfl
      rfl
  | employed _ _ _ _ _ _ => rfl
  | engaged _ _ _ _ _ _ _ => rfl

end World

/-! ## Every run -/

section Run

variable (chance : Chance) (moves : List Move)

/-- Everything adds up that a run tells of a core. -/
structure Chronicle.Ledgers (c : Chronicle) : Prop where
  held : ∀ core, c.world.held core + gone core c.world.scene.story ≤ come core c.world.scene.story
  passed : ∀ b id core, c.world.underWay b id core +
      (c.world.scene.story.count (.refused b id core) +
        c.world.scene.story.count (.lost b id core) +
        c.world.scene.story.count (.changed b (.assigned id core))) =
    c.world.scene.story.count (.offered b id core)
  slots : ∀ core, c.world.scene.stage.slots core +
      c.world.scene.story.countP (·.takes core) + c.world.scene.story.countP (·.closes core) =
    c.world.scene.story.countP (·.assigns core)
  closed : ∀ core, (c.doneBy Task.isErrand).count (.disposed core) =
    c.world.scene.story.countP (·.closes core)

theorem run_ledgers : (run chance moves).Ledgers := by
  refine run_keeps chance (P := Chronicle.Ledgers) ?_ ?_ moves
  · exact ⟨fun _ => Nat.le_refl _, fun _ _ _ => rfl, fun _ => rfl, fun _ => rfl⟩
  · rintro c actor events w' hsound htransition ⟨hheld, hpassed, hslots, hclosed⟩
    have hstory : w'.scene.story = events ++ c.world.scene.story := htransition.story_eq
    refine ⟨fun core => ?_, fun b id core => ?_, fun core => ?_, fun core => ?_⟩
    · have hbefore := hheld core
      have hstep := htransition.held_le core
      simp only [Chronicle.after, hstory, gone_append, come_append]
      omega
    · have hbefore := hpassed b id core
      have hstep := htransition.underWay_eq b id core
      simp only [Chronicle.after, hstory, List.count_append]
      omega
    · have hbefore := hslots core
      obtain ⟨may, hacts⟩ := htransition.acts
      have hstep := hacts.slots_eq hsound.scene.stage core
      simp only [Chronicle.after, hstory, List.countP_append]
      omega
    · have hbefore := hclosed core
      have hstep := htransition.closes_eq core
      rw [Chronicle.doneBy_after]
      simp only [Chronicle.after, hstory, List.countP_append, hstep]
      split
      · rw [List.count_append, hbefore]
      · rw [hbefore, Nat.zero_add]

end Run

end CoreBroker
