import CoreBroker.Proofs.Runs.Reservations
set_option autoImplicit false

/-!
# The cores of a dedicated fulfiller

What the loop of a dedicated fulfiller has done up to any moment of a run accounts for the core it
holds and for the request it has reserved.
-/

namespace CoreBroker

/-- How often the loop has the request `id` of the registry `b` reserved. -/
def Dedicated.claimed (f : Dedicated) (b id : Nat) : Nat :=
  (f.claim?.any fun claim => f.board == b && claim.2 == id).toNat

/-- What the loop has done accounts for what it has. -/
structure Dedicated.Balanced (f : Dedicated) (done : List Event) : Prop where
  cores : ∀ core, f.cores.count core + spent core done = done.count (.minted core)
  total : f.cores.length + done.countP (·.isAssigning) + done.countP (·.isDisposing) =
    done.countP (·.isMaking)
  claims : ∀ b id, done.count (.changed b (.unreserved id)) + f.claimed b id =
    done.count (.changed b (.reserved id))

namespace Dedicated

variable {f f' : Dedicated} {events done : List Event}

/-- A loop that holds nothing has done nothing that counts. -/
theorem balanced_nil (hspare : f.spare = none) (hpoint : f.point = .starting) : f.Balanced [] := by
  have hcores : f.cores = [] := by
    rw [cores_eq_core hspare, hpoint]
    rfl
  have hclaim : f.claim? = none := by
    rw [claim?, hpoint]
    rfl
  exact ⟨fun core => by simp [hcores], by simp [hcores], fun b id => by simp [claimed, hclaim]⟩

/-- A step makes and spends what the loop holds more or less afterwards. -/
theorem CoreFlow.cores_eq (hflow : f.CoreFlow events f') (core : Core) :
    f'.cores.count core + spent core events = f.cores.count core + events.count (.minted core) := by
  cases hflow with
  | along _ hcores _ => simp [hcores]
  | received _ hnone hcores _ _ =>
    simp [hnone, hcores, spent, Event.assigns, List.count_cons]
  | disposed _ hcore hcores _ _ => simp [hcore, hcores, count_cons_toNat]
  | offered _ hcore hcores _ _ => simp [hcore, hcores, spent, Event.assigns]
  | assigned _ hcore hcores _ _ =>
    simp [hcore, hcores, spent, Event.assigns, List.count_cons, List.countP_cons]
  | refused _ hcore hcores _ _ => simp [hcore, hcores, spent, Event.assigns]

theorem CoreFlow.total_eq (hflow : f.CoreFlow events f') :
    f'.cores.length + events.countP (·.isAssigning) + events.countP (·.isDisposing) =
      f.cores.length + events.countP (·.isMaking) := by
  cases hflow with
  | along _ hcores _ => simp [hcores]
  | received _ hnone hcores _ _ =>
    simp [hnone, hcores, Event.isAssigning, Event.isDisposing, Event.isMaking]
  | disposed _ hcore hcores _ _ =>
    simp [hcore, hcores, Event.isAssigning, Event.isDisposing, Event.isMaking]
  | offered _ hcore hcores _ _ =>
    simp [hcore, hcores, Event.isAssigning, Event.isDisposing, Event.isMaking]
  | assigned _ hcore hcores _ _ =>
    simp [hcore, hcores, Event.isAssigning, Event.isDisposing, Event.isMaking]
  | refused _ hcore hcores _ _ =>
    simp [hcore, hcores, Event.isAssigning, Event.isDisposing, Event.isMaking]

/-- A step reserves and gives up what the loop has reserved more or less afterwards. -/
theorem CoreFlow.claims_eq (hflow : f.CoreFlow events f') (b id : Nat) :
    events.count (.changed b (.unreserved id)) + f'.claimed b id =
      events.count (.changed b (.reserved id)) + f.claimed b id := by
  have hboard : f'.board = f.board := by
    rw [hflow.same]
  cases hflow with
  | along _ _ hclaim => simp [claimed, hclaim, hboard]
  | received _ _ _ hfree hclaim => simp [claimed, hfree, hclaim]
  | disposed _ _ _ hfree hclaim => simp [claimed, hfree, hclaim]
  | offered _ _ _ hfree hclaim =>
    simp [claimed, hfree, hclaim, hboard, count_cons_toNat, Bool.decide_and, beq_eq_decide]
  | assigned _ _ _ hclaimed hclaim =>
    simp [claimed, hclaimed, hclaim, count_cons_toNat, Bool.decide_and, beq_eq_decide]
  | refused _ _ _ hclaimed hclaim =>
    simp [claimed, hclaimed, hclaim, count_cons_toNat, Bool.decide_and, beq_eq_decide]

/-- Every step of the loop is balanced. -/
theorem CoreFlow.balanced (hflow : f.CoreFlow events f') (hdone : f.Balanced done) :
    f'.Balanced (events ++ done) := by
  refine ⟨fun core => ?_, ?_, fun b id => ?_⟩
  · have hstep := hflow.cores_eq core
    have hbefore := hdone.cores core
    rw [spent_append, List.count_append]
    omega
  · have hstep := hflow.total_eq
    have hbefore := hdone.total
    simp only [List.countP_append]
    omega
  · have hstep := hflow.claims_eq b id
    have hbefore := hdone.claims b id
    simp only [List.count_append]
    omega

theorem Balanced.of_bare (hdone : f.Balanced done) (hbare : f'.bare = f.bare) :
    f'.Balanced done := by
  rw [eq_of_bare hbare]
  exact ⟨hdone.cores, hdone.total, hdone.claims⟩

/-- The loop works on a core or waits for a call, and has a spare core only while it waits for something
to change. -/
theorem IsSound.calls_cores (hsound : f.IsSound) : f.calls.length + f.cores.length ≤ 1 := by
  cases hspare : f.spare with
  | none =>
    rw [cores_eq_core hspare, calls]
    cases f.point <;> simp [DedicatedPoint.call?, DedicatedPoint.core?]
  | some core =>
    obtain ⟨lookAgainAt, hpoint⟩ := hsound (by simp [hspare])
    simp [calls, cores, hpoint, hspare, DedicatedPoint.call?, DedicatedPoint.core?]

theorem IsSound.of_isOver (hsound : f.IsSound) (hover : f.isOver = true) :
    f.cores = [] ∧ f.calls = [] ∧ f.claim? = none := by
  have hspare : f.spare = none := by
    refine spare_eq_none hsound fun lookAgainAt hpoint => ?_
    rw [isOver, hpoint] at hover
    exact absurd hover (by simp)
  rw [cores_eq_core hspare, calls, claim?]
  unfold isOver at hover
  cases hpoint : f.point <;> simp [hpoint] at hover <;> exact ⟨rfl, rfl, rfl⟩

end Dedicated

/-! ## Every run -/

section Run

variable (chance : Chance) (moves : List Move) {i : Nat} {f : Dedicated}

/-- What the loop has done in a run accounts for what it has. -/
theorem dedicated_balanced (hf : (run chance moves).world.dedicated[i]? = some f) :
    f.Balanced ((run chance moves).doneBy (· == .dedicated i)) := by
  refine (run_keeps chance (P := fun c =>
    (c.world.dedicated[i]? = none → c.doneBy (· == .dedicated i) = []) ∧
      ∀ f, c.world.dedicated[i]? = some f → f.Balanced (c.doneBy (· == .dedicated i)))
    ?_ ?_ moves).2 f hf
  · exact ⟨fun _ => rfl, fun f hf => absurd hf (by simp)⟩
  · rintro c actor events w' hsound htransition ⟨hnone, hbalanced⟩
    rw [Chronicle.doneBy_after]
    show (w'.dedicated[i]? = none → _) ∧ ∀ f, w'.dedicated[i]? = some f → _
    rcases htransition.dedicatedTransition hsound i with ⟨hactor, hg, hg', -, hsteps⟩ | ⟨hactor, hsame⟩ |
      ⟨hactor, hbefore, hg', hspare, hpoint, -⟩
    · refine ⟨fun h => absurd h (by simp [hg']), fun f hf => ?_⟩
      rw [hg'] at hf
      cases hf
      rw [if_pos (by simp [hactor])]
      exact hsteps.flow.balanced (hbalanced _ hg)
    · have hother : ¬ actor.any (· == .dedicated i) = true := by
        intro h
        obtain ⟨t, ht, heq⟩ := (Option.any_eq_true _ _).mp h
        exact hactor (ht.trans (congrArg some (eq_of_beq heq)))
      rw [if_neg hother]
      refine ⟨fun h => hnone (by simpa [h] using hsame.symm), fun f hf => ?_⟩
      obtain ⟨g, hg, hbare⟩ := exists_of_map_eq hsame hf
      exact (hbalanced g hg).of_bare hbare
    · rw [if_neg (by simp [hactor]), hnone hbefore]
      refine ⟨fun h => absurd h (by simp [hg']), fun f hf => ?_⟩
      rw [hg'] at hf
      cases hf
      exact Dedicated.balanced_nil hspare hpoint

/-- What the chronicle of a run says about the cores of the dedicated fulfiller `i`, which is `f`. -/
structure Dedicated.Ownership (c : Chronicle) (i : Nat) (f : Dedicated) : Prop where
  /-- The loop waits for at most one call or holds at most one core. -/
  one : f.calls.length + f.cores.length ≤ 1
  /-- Whatever the provider returned to the loop is held, was assigned or was disposed of. -/
  accounted : ∀ core, f.cores.count core + (c.doneBy (· == .dedicated i)).countP (·.assigns core) +
    (c.doneBy (· == .dedicated i)).count (.disposed core) =
      (c.doneBy (· == .dedicated i)).count (.minted core)
  /-- No core was returned twice, so that it is accounted for in one way and once. -/
  once : ∀ core, (c.doneBy (· == .dedicated i)).count (.minted core) ≤ 1
  surplus : (c.doneBy (· == .dedicated i)).countP (·.isMaking) ≤
    (c.doneBy (· == .dedicated i)).countP (·.isAssigning) +
      (c.doneBy (· == .dedicated i)).countP (·.isDisposing) + 1
  /-- Once the shutdown has returned the loop has nothing left. -/
  released : .stopped (.dedicated i) ∈ c.world.scene.story →
    f.cores = [] ∧ f.calls = [] ∧ f.claim? = none
  /-- Every reservation that the loop ever made was given up by then. -/
  unreserved : .stopped (.dedicated i) ∈ c.world.scene.story → ∀ b id,
    (c.doneBy (· == .dedicated i)).count (.changed b (.reserved id)) =
      (c.doneBy (· == .dedicated i)).count (.changed b (.unreserved id))
  /-- What is reserved then is reserved for the client or another fulfiller. -/
  reserved : .stopped (.dedicated i) ∈ c.world.scene.story → ∀ b id,
    c.world.scene.stage.IsMarked b id → 0 < c.world.locked b id ∨
      ∃ (k : Nat) (g : Dedicated), k ≠ i ∧ c.world.dedicated[k]? = some g ∧ g.Claims b id

/-- In every run a dedicated fulfiller accounts for its cores: it waits for at most one call or holds at
most one core, whatever was returned to it is held, assigned once or disposed of once, and after its
shutdown nothing is held or left reserved. -/
theorem dedicated_core_ownership (hf : (run chance moves).world.dedicated[i]? = some f) :
    f.Ownership (run chance moves) i := by
  have hsound : f.IsSound := (run_isSound chance moves).dedicated f (List.mem_of_getElem? hf)
  have hbalanced := dedicated_balanced chance moves hf
  have hover : .stopped (.dedicated i) ∈ (run chance moves).world.scene.story →
      f.cores = [] ∧ f.calls = [] ∧ f.claim? = none := fun hstopped => by
    have hover := isOver_of_stopped hstopped
    simp only [World.isOver, hf, Option.any_some] at hover
    exact hsound.of_isOver hover
  refine ⟨hsound.calls_cores, fun core => ?_, fun core => Chronicle.count_minted_doneBy moves _ core,
    ?_, hover, fun hstopped b id => ?_, fun hstopped b id hmarked => ?_⟩
  · have hcores := hbalanced.cores core
    rw [spent] at hcores
    omega
  · have htotal := hbalanced.total
    have hone := hsound.calls_cores
    omega
  · have hclaims := hbalanced.claims b id
    obtain ⟨-, -, hclaim⟩ := hover hstopped
    simpa [Dedicated.claimed, hclaim] using hclaims.symm
  · rcases reserves_of_isMarked chance moves hmarked with hlocked | ⟨k, g, hg, hclaims⟩
    · exact .inl hlocked
    · refine .inr ⟨k, g, ?_, hg, hclaims⟩
      rintro rfl
      rw [hf] at hg
      cases hg
      obtain ⟨-, core, hclaimed⟩ := hclaims
      obtain ⟨-, -, hclaim⟩ := hover hstopped
      exact absurd hclaimed (by simp [hclaim])

end Run

/-- A dedicated fulfiller obtains a core for the only request, assigns it, and is shut down. -/
def servedRun : List Move :=
  [Move.found, .enlist "P" "p" (.scripted [{ course := .core }] { free := 0 }),
    .dedicated 0 0 ⟨0, "p"⟩ {}, .begin (.create 0 .requireLocal 1 [] none false),
    .step (.errand 1), .step (.errand 1)] ++ List.replicate 9 (Move.step (.dedicated 0)) ++
  [Move.begin (.shutDown false false [.dedicated 0 false]), .step (.errand 7), .step (.dedicated 0),
    .step (.errand 7)]

/-- The fulfiller of that run has accounted for its core when its shutdown has returned. -/
theorem dedicated_core_ownership_served :
    ∃ f, (run .plain servedRun).world.dedicated[0]? = some f ∧
      .stopped (.dedicated 0) ∈ (run .plain servedRun).world.scene.story ∧
      f.Ownership (run .plain servedRun) 0 :=
  ⟨_, rfl, by decide +kernel, dedicated_core_ownership .plain servedRun rfl⟩

end CoreBroker
