import CoreBroker.Proofs.Registry.Selection
import CoreBroker.Proofs.Runs.Locality
set_option autoImplicit false

/-!
# The order in which requests are served

A dedicated fulfiller assigns each core to the request that came next when the loop reserved it.  The
requests stand in the order in which they were entered, and the next one is the oldest candidate of the
primary constraint of the fulfiller; a request that prefers a remote core has its turn with a local
fulfiller when there is no such candidate, however long it has waited.
-/

namespace CoreBroker

/-- The requests of a registry are served in their turn: they stand in the order in which they were
`entered`, the search finds what comes next, and whoever is passed over prefers a remote core. -/
structure Registry.HasTurns (g : Registry Core) (entered : List Nat) : Prop where
  order : g.requests.map (·.id) = entered
  next : ∀ includeLocal remoteDelay now r,
    g.next? includeLocal remoteDelay now = some r ↔ g.ComesNext includeLocal remoteDelay now r
  /-- Of the requests that a fulfiller may serve, the next one passes over those alone that prefer a remote
  core and have waited long enough, and only in favour of one that does not prefer a remote core. -/
  passes : ∀ includeLocal remoteDelay now r, g.next? includeLocal remoteDelay now = some r →
    ∃ before after, g.requests = before ++ r :: after ∧
      ∀ q ∈ before, q.isEligible includeLocal remoteDelay now = true →
        q.isAgedRemote includeLocal remoteDelay now = true ∧ r.preference ≠ .preferRemote
  /-- Where no request is offered for its age, the next one is the oldest that may be served. -/
  oldest : ∀ includeLocal remoteDelay now r, includeLocal = false ∨ remoteDelay = none →
    g.next? includeLocal remoteDelay now = some r →
      g.IsOldest (·.isEligible includeLocal remoteDelay now) r

/-- The request `id` of the registry `b` is the one that comes next for the dedicated fulfiller `i`. -/
def World.TakesInTurn (w : World) (i b id : Nat) : Prop :=
  ∃ f r, w.dedicated[i]? = some f ∧ f.board = b ∧ r.id = id ∧
    (w.scene.boardAt b).registry.ComesNext f.settings.servesLocal f.offeredDelay w.scene.now r

/-- The request `id` of the registry `b` is the oldest that the dedicated fulfiller `i` may serve. -/
def World.TakesOldest (w : World) (i b id : Nat) : Prop :=
  ∃ f r, w.dedicated[i]? = some f ∧ f.board = b ∧ r.id = id ∧
    (w.scene.boardAt b).registry.IsOldest
      (·.isEligible f.settings.servesLocal f.offeredDelay w.scene.now) r

/-- A step that reserves a request leaves it to the loop, which had none reserved. -/
theorem Dedicated.CoreFlow.of_reserved {f f' : Dedicated} {events : List Event} {b id : Nat}
    (hflow : f.CoreFlow events f') (hreserved : .changed b (.reserved id) ∈ events) :
    f.board = b ∧ ¬ f.Claims b id ∧ f'.Claims b id := by
  cases hflow with
  | @offered _ core n hsame _ _ hfree hclaim =>
    obtain ⟨rfl, rfl⟩ : b = f.board ∧ id = n := by simpa using hreserved
    refine ⟨rfl, not_claims hfree, ?_, core, hclaim⟩
    rw [hsame]
  | _ => simp at hreserved

section Run

variable {chance : Chance} {moves : List Move} {i b id : Nat}

/-- Whatever request the loop of a dedicated fulfiller reserves, it was the turn of that request. -/
theorem takes_in_turn
    (hreserved : (run chance moves).world.Changes chance (.dedicated i) b (.reserved id)) :
    (run chance moves).world.TakesInTurn i b id := by
  obtain ⟨f, f', hf, hstep, hsteps⟩ := World.dedicated_of_mem_news (run_isSound chance moves) hreserved
  obtain ⟨hboard, hbefore, hclaims⟩ := hsteps.flow.of_reserved hreserved
  obtain ⟨g, changes, r, hstage, hnext, hid⟩ := Dedicated.step_chooses hstep hbefore hclaims
  have hregistry : ((run chance moves).world.scene.boardAt b).registry = g := by
    have hsame := congrArg Prod.fst (Stage.board_eq hstage)
    rwa [Scene.board_stage] at hsame
  exact ⟨f, r, hf, hboard, hid, hregistry ▸ Registry.next?_eq_some_iff.mp hnext⟩

theorem run_hasTurns (chance : Chance) (moves : List Move) (b : Nat) :
    ((run chance moves).world.scene.boardAt b).registry.HasTurns
      ((changesOf b (run chance moves).world.scene.story).filterMap (·.enteredId?)).reverse where
  order := ((run_isSound chance moves).scene.courseAt b).ids_eq
  next _ _ _ _ := Registry.next?_eq_some_iff
  passes _ _ _ _ := Registry.passed_over
  oldest _ _ _ _ := Registry.isOldest_of_next?

end Run

/-- In every run requests are served in their turn.  Whatever core a dedicated fulfiller assigns, the request
that gets it was the next one when the loop reserved it, and has been reserved ever since. -/
theorem served_in_turn (chance : Chance) (moves : List Move) :
    (∀ b, ((run chance moves).world.scene.boardAt b).registry.HasTurns
      ((changesOf b (run chance moves).world.scene.story).filterMap (·.enteredId?)).reverse) ∧
    ∀ i b id core, (⟨some (.dedicated i), .changed b (.assigned id core)⟩ : Deed) ∈
        (run chance moves).deeds →
      ∃ first second third,
        moves = first ++ .step (.dedicated i) :: (second ++ .step (.dedicated i) :: third) ∧
          (run chance first).world.TakesInTurn i b id ∧
          Throughout chance (·.Holds b id (.loop i)) (first ++ [.step (.dedicated i)]) second := by
  refine ⟨run_hasTurns chance moves, fun i b id core hdeed => ?_⟩
  obtain ⟨before, third, rfl, hassigned⟩ := exists_step_of_deed rfl hdeed
  obtain ⟨first, second, rfl, hserves⟩ := dedicated_serves hassigned
  obtain ⟨-, -, -, -, hreserved⟩ := hserves.selected
  exact ⟨first, second, third, by simp, takes_in_turn hreserved, hserves.kept⟩

/-- A request that prefers a remote core is entered, then one that requires a local core, and a local
fulfiller without a delay has a core for one of them. -/
def overtakingRun : List Move :=
  [Move.found, .enlist "P" "p" (.scripted [{ course := .core }] { free := 0 }),
    .begin (.create 0 .preferRemote 1 [] none false), .step (.errand 0), .step (.errand 0),
    .begin (.create 0 .requireLocal 1 [] none false), .step (.errand 2), .step (.errand 2),
    .dedicated 0 0 ⟨0, "p"⟩ {}] ++
  List.replicate 4 (Move.step (.dedicated 0))

/-- The core goes to the younger request. -/
theorem served_in_turn_overtaking : ∃ first second third,
    overtakingRun ++ [.step (.dedicated 0), .step (.dedicated 0)] =
        first ++ .step (.dedicated 0) :: (second ++ .step (.dedicated 0) :: third) ∧
      (run .plain first).world.TakesInTurn 0 0 3 ∧
      Throughout .plain (·.Holds 0 3 (.loop 0)) (first ++ [.step (.dedicated 0)]) second :=
  (served_in_turn .plain (overtakingRun ++ [.step (.dedicated 0), .step (.dedicated 0)])).2 0 0 3
    ⟨7, "P", 1, "p", .immediate⟩ (by decide +kernel)

/-- The next request need not be the oldest that may be served, and a dedicated fulfiller reserves for its
core a request that is not the oldest that it may serve. -/
theorem older_request_passed_over :
    (¬ ∀ chance moves b includeLocal remoteDelay now r,
      ((run chance moves).world.scene.boardAt b).registry.next? includeLocal remoteDelay now = some r →
        ((run chance moves).world.scene.boardAt b).registry.IsOldest
          (·.isEligible includeLocal remoteDelay now) r) ∧
    ¬ ∀ chance moves i b id,
      (run chance moves).world.Changes chance (.dedicated i) b (.reserved id) →
        (run chance moves).world.TakesOldest i b id := by
  have hoverlooked : ∀ r, r.id = 3 →
      ¬ ((run .plain overtakingRun).world.scene.boardAt 0).registry.IsOldest
        (·.isEligible true (some 0) 0) r := by
    intro r hid holdest
    have hfirst : (((run .plain overtakingRun).world.scene.boardAt 0).registry.requests.find?
        (·.isEligible true (some 0) 0)).map (·.id) = some 1 := by decide +kernel
    rw [Registry.isOldest_iff.mp holdest, Option.map_some, hid] at hfirst
    exact absurd hfirst (by decide)
  constructor
  · intro hclaim
    have hnext : (((run .plain overtakingRun).world.scene.boardAt 0).registry.next? true (some 0) 0).map
        (·.id) = some 3 := by decide +kernel
    obtain ⟨r, hr, hid⟩ := Option.map_eq_some_iff.mp hnext
    exact hoverlooked r hid (hclaim _ _ _ _ _ _ r hr)
  · intro hclaim
    have hreserved : (run .plain overtakingRun).world.Changes .plain (.dedicated 0) 0 (.reserved 3) := by
      unfold World.Changes
      decide +kernel
    obtain ⟨f, r, hf, -, hid, holdest⟩ := hclaim _ _ _ _ _ hreserved
    have hsettings : (run .plain overtakingRun).world.dedicated[0]?.map
        (fun f => (f.settings.servesLocal, f.offeredDelay)) = some (true, some 0) := by decide +kernel
    have hnow : (run .plain overtakingRun).world.scene.now = 0 := by decide +kernel
    rw [hf, Option.map_some, Option.some.injEq, Prod.mk.injEq] at hsettings
    rw [hsettings.1, hsettings.2, hnow] at holdest
    exact hoverlooked r hid holdest

end CoreBroker
