import CoreBroker.Proofs.Registry.Ownership
import CoreBroker.Proofs.Runs.Reservers
set_option autoImplicit false

/-!
# Who assigns a core to a reserved request

A reservation hides a request from those who look for one, but the assignment itself asks only whether the
request has a core or was disposed of.  So a caller that remembers a request from an earlier snapshot gets a
core into it through a later one, which does not list it; nobody else but the reserver does.
-/

namespace CoreBroker

/-- The request `id` was disposed of. -/
def Registry.HasDisposedOf (g : Registry Core) (id : Nat) : Prop :=
  ∃ r ∈ g.requests, r.id = id ∧ r.isListed = false

/-- A request that is not waiting for a core has one or was disposed of. -/
theorem Registry.disposed_or_fulfils {g : Registry Core} {r : Request Core} (hr : r ∈ g.requests)
    (hwaits : ¬ g.Waits r.id) : g.HasDisposedOf r.id ∨ g.Fulfils r.id := by
  cases hlisted : r.isListed with
  | false => exact .inl ⟨r, hr, rfl, hlisted⟩
  | true =>
    cases hassigned : r.isAssigned with
    | true => exact .inr ⟨r, hr, rfl, hassigned⟩
    | false => exact absurd ⟨r, hr, rfl, by simp [Request.isWaiting, hlisted, hassigned]⟩ hwaits

namespace World

variable {chance : Chance} {w : World} {b id : Nat}

/-- What the reserver does next to pass its core to the request comes to a refusal. -/
def IsRefused (w : World) (b id : Nat) : Reserver → Prop
  | .client lock => ∃ n core reason w', (n, Errand.assign lock core) ∈ w.errands ∧
      w.stepErrand n (.assign lock core) = some (.finish (.refused ⟨core, reason⟩) w')
  | .loop i => ∃ f f' s events core, w.dedicated[i]? = some f ∧ f.step i w.scene = some (f', s) ∧
      s.story = events ++ w.scene.story ∧ .refused b id core ∈ events

/-! ## Assignments while a request is reserved -/

/-- While a request is reserved, a core is assigned to it by the reserver, or through a snapshot that does
not list it. -/
theorem Assigns.own_or_unlisted (hw : w.IsSound) (hguarded : w.IsGuarded) (hengaged : w.IsEngaged)
    (hreservations : w.reservations b id = w.scene.stage.marked b id) {reserver : Reserver}
    (hholds : w.Holds b id reserver) {m : Move} (hassigns : w.Assigns chance b id m) :
    w.IsOwnCall m reserver ∨ w.IsUnlistedCall b id m := by
  have hmarked : 0 < w.scene.stage.marked b id :=
    hreservations ▸ reservations_pos_iff.mpr hholds.reserves
  have honce : w.reservations b id ≤ 1 := hreservations ▸ hw.scene.stage.marked_le_one b id
  cases hassigns.mayAssign hw with
  | @loop i f hf hclaims =>
    have hthis : w.Holds b id (.loop i) := ⟨f, hf, hclaims⟩
    exact .inl (hholds.unique honce hthis ▸ rfl)
  | pass hfree => exact absurd hfree (Nat.ne_of_gt hmarked)
  | @errand n e hmem hmay =>
    obtain ⟨lock, core, rfl, hboard, hrequest⟩ := hmay
    have hthis : w.Holds b id (.client lock) := ⟨hengaged n lock core hmem, hboard, hrequest⟩
    exact .inl (hholds.unique honce hthis ▸ ⟨n, core, rfl, hmem⟩)
  | @under snapshot core hmem hboard =>
    refine .inr ⟨snapshot, hmem, core, rfl, hboard, fun hlisted => ?_⟩
    have hunmarked := hguarded.unmarked snapshot hmem id hlisted
    rw [hboard] at hunmarked
    omega

/-! ## Refusals -/

/-- The request that refuses a core of the client does not wait for one. -/
theorem not_waits_of_assign_refused (hw : w.IsSound) {n : Nat} {lock : Lock} {core : Core}
    {refusal : Refusal Core Nat} {w' : World}
    (hstep : w.stepErrand n (.assign lock core) = some (.finish (.refused refusal) w')) :
    ¬ (w.scene.boardAt lock.board).registry.Waits lock.request := by
  simp only [stepErrand, underGuard] at hstep
  cases henter : w.scene.enter lock.board (.errand n) with
  | blocked => simp [henter] at hstep
  | joined s => simp [henter] at hstep
  | entered board s =>
    obtain ⟨haside, hboard, -⟩ := Scene.aside_of_entered henter
    simp only [henter, withScene] at hstep
    cases hassign : s.assignCore lock.board lock.request core with
    | ok s' => simp [hassign] at hstep
    | error reason =>
      rw [Scene.boardAt_eq hboard]
      exact Scene.not_waits_of_refused (haside.stage ▸ hw.scene.stage)
        (haside.stage ▸ Scene.stage_board hboard) hassign

/-- The request that refuses the core of a loop does not wait for one. -/
theorem not_waits_of_loop_refused (hw : w.IsSound) {i : Nat} {f f' : Dedicated} {s : Scene}
    {events : List Event} {core : Core} (hf : w.dedicated[i]? = some f)
    (hstep : f.step i w.scene = some (f', s)) (hstory : s.story = events ++ w.scene.story)
    (hrefused : .refused b id core ∈ events) : ¬ (w.scene.boardAt b).registry.Waits id := by
  have hsound := hw.dedicated f (List.mem_of_getElem? hf)
  obtain ⟨events', hsteps⟩ := Dedicated.step_steps hw.scene.stage hsound hstep
  have hsame : events = events' :=
    List.append_cancel_right (hstory.symm.trans hsteps.acts.story_eq)
  have hflow := hsteps.flow
  rw [← hsame] at hflow
  cases hflow with
  | refused _ _ hcores hclaimed hclaim =>
    obtain ⟨rfl, rfl, rfl⟩ : b = f.board ∧ id = _ ∧ core = _ := by simpa using hrefused
    exact Dedicated.not_waits_of_kept hw.scene.stage hsound hclaimed hstep hcores hclaim
  | _ => exact absurd hrefused (by simp)

/-- A reserved request that refuses a core has one or was disposed of. -/
theorem IsRefused.disposed_or_fulfils (hw : w.IsSound) {reserver : Reserver}
    (hmarked : 0 < w.scene.stage.marked b id) (hholds : w.Holds b id reserver)
    (hrefused : w.IsRefused b id reserver) : (w.scene.boardAt b).registry.HasDisposedOf id ∨
      (w.scene.boardAt b).registry.Fulfils id := by
  have hwaits : ¬ (w.scene.boardAt b).registry.Waits id := by
    cases reserver with
    | client lock =>
      obtain ⟨-, rfl, rfl⟩ := hholds
      obtain ⟨n, core, reason, w', -, hstep⟩ := hrefused
      exact not_waits_of_assign_refused hw hstep
    | loop i =>
      obtain ⟨f, f', s, events, core, hf, hstep, hstory, hmem⟩ := hrefused
      exact not_waits_of_loop_refused hw hf hstep hstory hmem
  rw [Stage.marked, Scene.board_stage] at hmarked
  obtain ⟨r, hr, rfl, -⟩ := Registry.marked_pos_iff.mp hmarked
  exact Registry.disposed_or_fulfils hr hwaits

/-! ## Calls of the client have their reservations -/

theorem IsEngaged.perform (h : w.IsEngaged) (hw : w.IsSound) (m : Move) :
    (w.perform chance m).IsEngaged := by
  rcases perform_drops_or_respectsGuards chance hw m with ⟨snapshot, -, hdrop⟩ | hrespects
  · rw [hdrop]
    exact h
  · exact hrespects.engaged h

end World

section Run

variable (chance : Chance) (moves : List Move)

theorem run_isEngaged : (run chance moves).world.IsEngaged :=
  run_keeps_world (fun _ _ _ h => absurd h List.not_mem_nil) (fun _ m hw h => h.perform hw m) moves

variable {chance moves} {b id : Nat} {reserver : Reserver}

theorem run_own_or_unlisted (hholds : (run chance moves).world.Holds b id reserver) {m : Move}
    (hassigns : (run chance moves).world.Assigns chance b id m) :
    (run chance moves).world.IsOwnCall m reserver ∨
      (run chance moves).world.IsUnlistedCall b id m :=
  hassigns.own_or_unlisted (run_isSound chance moves) (run_isGuarded chance moves)
    (run_isEngaged chance moves) (reservations_eq_marked chance moves b id) hholds

/-- In every run, while somebody has reserved a request, nobody else assigns a core to it, except through a
snapshot that does not list it.  Hence if the core of the reserver is refused, the request was disposed of,
or it got a core from the reserver or through such a snapshot while it was reserved. -/
theorem reserved_assigned_by_reserver (hholds : (run chance moves).world.Holds b id reserver) :
    (∀ m, (run chance moves).world.Assigns chance b id m →
      (run chance moves).world.IsOwnCall m reserver ∨
        (run chance moves).world.IsUnlistedCall b id m) ∧
    ((run chance moves).world.IsRefused b id reserver →
      ((run chance moves).world.scene.boardAt b).registry.HasDisposedOf id ∨
        ∃ before m after, moves = before ++ m :: after ∧
          (run chance before).world.Holds b id reserver ∧
          (run chance before).world.Assigns chance b id m ∧
          ((run chance before).world.IsOwnCall m reserver ∨
            (run chance before).world.IsUnlistedCall b id m)) := by
  refine ⟨fun m hassigns => run_own_or_unlisted hholds hassigns, fun hrefused => ?_⟩
  have hmarked : 0 < (run chance moves).world.scene.stage.marked b id :=
    reservations_eq_marked chance moves b id ▸ World.reservations_pos_iff.mpr hholds.reserves
  refine (hrefused.disposed_or_fulfils (run_isSound chance moves) hmarked hholds).imp_right
    fun hfulfils => ?_
  obtain ⟨before, m, after, hmoves, hheld, hassigns⟩ := exists_assigning chance moves hholds hfulfils
  exact ⟨before, m, after, hmoves, hheld, hassigns, run_own_or_unlisted hheld hassigns⟩

end Run

/-! ## A request that is remembered -/

instance {g : Registry Core} {id : Nat} : Decidable (g.Fulfils id) :=
  inferInstanceAs (Decidable (∃ r ∈ g.requests, r.id = id ∧ r.isAssigned = true))

instance {g : Registry Core} {id : Nat} : Decidable (g.HasDisposedOf id) :=
  inferInstanceAs (Decidable (∃ r ∈ g.requests, r.id = id ∧ r.isListed = false))

/-- The client passes a core to the request of the reservation. -/
def Move.offers (lock : Lock) : Move → Bool
  | .offer other _ => other == lock
  | _ => false

/-- A request is listed by a snapshot and reserved after that, so that the next snapshot does not list
it. -/
def rememberedRun : List Move :=
  [.found, .begin (.create 0 .requireLocal 1 [] none false), .step (.errand 0), .step (.errand 0),
    .make "test" 1 .immediate, .make "test" 2 .immediate, .begin (.ask 0 (.snapshot .all) none),
    .step (.errand 4), .dropSnapshot ⟨5, 0, [1]⟩, .begin (.ask 0 (.next true none) none),
    .step (.errand 6), .begin (.ask 0 (.snapshot .all) none), .step (.errand 8)]

/-- A core is assigned to the request through that snapshot, before the reserver passes its own. -/
def forestalledRun : List Move :=
  rememberedRun ++ [Move.assignUnder ⟨9, 0, []⟩ 1 testCore, .dropSnapshot ⟨9, 0, []⟩,
    .offer ⟨7, 0, 1⟩ ⟨3, "test", 2, "test", .immediate⟩]

theorem forestalledRun_holds :
    (run .plain forestalledRun).world.Holds 0 1 (.client ⟨7, 0, 1⟩) :=
  ⟨by decide +kernel, rfl, rfl⟩

theorem forestalledRun_isRefused :
    (run .plain forestalledRun).world.IsRefused 0 1 (.client ⟨7, 0, 1⟩) := by
  have hcalls : (10, Errand.assign ⟨7, 0, 1⟩ ⟨3, "test", 2, "test", .immediate⟩) ∈
      (run .plain forestalledRun).world.errands := List.mem_of_getElem? (i := 0) rfl
  exact ⟨10, _, .alreadyFulfilled 1, _, hcalls, rfl⟩

/-- In the run where a remembered request gets a core, the reserver is refused because of a call that
assigned one, though nobody has disposed of the request. -/
theorem forestalled_by_call :
    ¬ ((run .plain forestalledRun).world.scene.boardAt 0).registry.HasDisposedOf 1 ∧
      ∃ before m after, forestalledRun = before ++ m :: after ∧
        (run .plain before).world.Assigns .plain 0 1 m ∧
        ((run .plain before).world.IsOwnCall m (.client ⟨7, 0, 1⟩) ∨
          (run .plain before).world.IsUnlistedCall 0 1 m) := by
  have hlisted : ¬ ((run .plain forestalledRun).world.scene.boardAt 0).registry.HasDisposedOf 1 := by
    decide +kernel
  obtain ⟨-, hreason⟩ := reserved_assigned_by_reserver forestalledRun_holds
  obtain ⟨before, m, after, hmoves, -, hassigns, hcall⟩ :=
    (hreason forestalledRun_isRefused).resolve_left hlisted
  exact ⟨hlisted, before, m, after, hmoves, hassigns, hcall⟩

/-- The reserver of a request may be another than the one who assigns a core to it, and the first core
that is passed to a reserved request may be refused though nobody has disposed of the request. -/
theorem reserved_assigned_by_another :
    (¬ ∀ chance moves b id reserver m, (run chance moves).world.Holds b id reserver →
      (run chance moves).world.Assigns chance b id m →
        (run chance moves).world.IsOwnCall m reserver) ∧
    ¬ ∀ chance moves b id lock, (run chance moves).world.Holds b id (.client lock) →
      moves.countP (·.offers lock) = 1 → (run chance moves).world.IsRefused b id (.client lock) →
        ((run chance moves).world.scene.boardAt b).registry.HasDisposedOf id := by
  constructor
  · intro hclaim
    have hholds : (run .plain rememberedRun).world.Holds 0 1 (.client ⟨7, 0, 1⟩) :=
      ⟨by decide +kernel, rfl, rfl⟩
    have hassigns : (run .plain rememberedRun).world.Assigns .plain 0 1
        (.assignUnder ⟨9, 0, []⟩ 1 testCore) := ⟨by decide +kernel, by decide +kernel⟩
    obtain ⟨n, core, hm, -⟩ := hclaim _ _ _ _ _ _ hholds hassigns
    exact absurd hm (by simp)
  · intro hclaim
    have hdisposed := hclaim _ _ _ _ _ forestalledRun_holds (by decide +kernel)
      forestalledRun_isRefused
    exact absurd hdisposed (by decide +kernel)

end CoreBroker
