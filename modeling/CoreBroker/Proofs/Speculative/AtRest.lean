import CoreBroker.Proofs.Runs.Awareness
set_option autoImplicit false

/-!
# A speculative fulfiller at rest

When nothing is left to be done, the fulfiller tracks just the providers that are there, holds no core, and
asks as many of them as the requests that are left call for.
-/

namespace CoreBroker

namespace Speculative

variable {f : Speculative} {s : Scene} {chance : Chance} {me : Nat}

/-- How many providers should be asked while so many requests wait: none without demand, else `slack`
more than there are requests. -/
def wanted (f : Speculative) (pending : Nat) : Nat :=
  if pending = 0 then 0 else pending + f.settings.slack.toNat

/-- What holds of a fulfiller when nothing is left to be done. -/
structure IsAtRest (f : Speculative) (board : Board) (roster : Roster) : Prop where
  /-- The tracked providers are those on the roster, as objects. -/
  tracked : (f.states.map (·.provider)).Perm roster.members
  coreless : ∀ o ∈ f.states, o.hasCore = false
  obtaining : f.states.countP (·.isObtaining) =
    min (f.wanted (board.registry.candidateCount f.constraint)) roster.members.length

/-- A fulfiller that cannot go on from where it waits for a change has found nothing that has changed. -/
theorem quiet_of_blocked (hidle : f.point = .idle) (hblocked : f.step chance me s = none) :
    f.exits = [] ∧ s.boardReady f.board f.requestReceiver = false ∧
      s.rosterReady f.roster f.rosterReceiver = false := by
  simp only [step, hidle] at hblocked
  split at hblocked
  · exact absurd hblocked (by simp)
  · split at hblocked
    · exact absurd hblocked (by simp)
    · rename_i hexits
      split at hblocked
      · exact absurd hblocked (by simp)
      · rename_i hready
        simp only [Bool.or_eq_true, not_or, Bool.not_eq_true] at hready
        exact ⟨hexits, hready⟩

/-- Where nobody holds a core, the engaged providers are those that are asked. -/
theorem IsSized.obtaining {n : Nat} (hsized : f.IsSized n) :
    f.states.countP (·.isObtaining) = f.states.countP (·.isEngaged) := by
  refine List.countP_congr fun o ho => ?_
  have hcoreless := List.countP_eq_zero.mp hsized.coreless o ho
  rw [Obtainment.isObtaining_of_not_hasCore (Bool.eq_false_iff.mpr hcoreless)]

/-- A fulfiller that is aware and cannot go on is at rest, where nobody holds a reservation. -/
theorem IsAware.isAtRest (haware : f.IsAware me s.stage) (hidle : f.point = .idle)
    (hblocked : f.step chance me s = none)
    (hfree : ∀ g changes, s.stage.boards[f.board]? = some (g, changes) → g.IsFree)
    (hsmall : ∀ board, s.boards[f.board]? = some board →
      board.registry.candidateCount f.constraint + f.settings.slack.toNat < UInt64.size) :
    ∃ board roster, s.boards[f.board]? = some board ∧ s.rosters[f.roster]? = some roster ∧
      f.IsAtRest board roster := by
  obtain ⟨hexits, hready, hrosterReady⟩ := quiet_of_blocked hidle hblocked
  have hserved := haware.served (by simp [hidle])
  have hboardServed : s.stage.ServesBoard f.board f.requestReceiver := hserved.board
  have hrosterServed : s.stage.ServesRoster f.roster f.rosterReceiver := hserved.roster
  obtain ⟨g, changes, hstage, -⟩ := hboardServed
  obtain ⟨members, rosterChanges, hrosterStage, -⟩ := hrosterServed
  obtain ⟨board, hboard, rfl, rfl⟩ := Scene.board_of_stage hstage
  obtain ⟨roster, hroster, rfl, rfl⟩ := Scene.roster_of_stage hrosterStage
  have hcalm : s.stage.IsCalm f.board f.requestReceiver board.registry.waiting :=
    ⟨board.registry, board.changes, hstage, by simpa [Scene.boardReady, hboard] using hready,
      hfree _ _ hstage, rfl⟩
  have hcurrent : s.stage.IsCurrent f.roster f.rosterReceiver roster.members :=
    ⟨roster.changes, hrosterStage, by simpa [Scene.rosterReady, hroster] using hrosterReady⟩
  have hperm := haware.tracks (.inr (by rw [hidle]; rfl)) _ hcurrent
  have hsized : f.IsSized (f.demand board.registry.waiting) := by
    have hknows := haware.knows
    unfold Knows at hknows
    simp only [hidle] at hknows
    exact hknows hexits _ hcalm
  rw [← candidateCount_of_calm hstage hcalm] at hsized
  refine ⟨board, roster, hboard, hroster, hperm, fun o ho => ?_, ?_⟩
  · exact Bool.eq_false_iff.mpr (List.countP_eq_zero.mp hsized.coreless o ho)
  · have hlength : f.states.length = roster.members.length := by
      have hsame := hperm.length_eq
      simpa only [States.providers, List.length_map] using hsame
    have htarget : States.target (board.registry.candidateCount f.constraint)
        f.settings.slack.toNat = f.wanted (board.registry.candidateCount f.constraint) := by
      rw [States.target, wanted, Nat.mod_eq_of_lt (hsmall board hboard)]
    rw [hsized.obtaining, hsized.engaged, hlength, htarget]

end Speculative

/-! ## Every run -/

section Run

variable (chance : Chance) (moves : List Move)

/-- No wakeup is lost: in whatever run only fulfillers reserve requests, a speculative fulfiller that waits
for a change and finds none is sized to the requests and the providers that are there, as long as nobody
holds a reservation. -/
theorem speculative_sized_at_rest {i : Nat} {f : Speculative}
    (hf : (run chance moves).world.speculative[i]? = some f) (hidle : f.point = .idle)
    (hreserved : (run chance moves).ReservedByFulfillers f.board)
    (hblocked : (run chance moves).world.step chance (.speculative i) = none)
    (hnone : (run chance moves).world.IsUnreserved f.board)
    (hsmall : ∀ board, (run chance moves).world.scene.boards[f.board]? = some board →
      board.registry.candidateCount f.constraint + f.settings.slack.toNat < UInt64.size) :
    ∃ board roster, (run chance moves).world.scene.boards[f.board]? = some board ∧
      (run chance moves).world.scene.rosters[f.roster]? = some roster ∧ f.IsAtRest board roster := by
  have haware : f.IsAware i (run chance moves).world.scene.stage :=
    (run_isAware chance moves hreserved).speculative i f hf rfl
  have hwaits : f.step chance i (run chance moves).world.scene = none := by
    simpa [World.step, hf] using hblocked
  exact haware.isAtRest hidle hwaits
    (fun g changes hboard => isFree_of_isUnreserved chance moves hboard hnone) hsmall

end Run

/-- Two providers join a roster of one while a request waits. -/
def sizedRun : List Move :=
  [Move.found, .enlist "A" "a" (.scripted [] { free := 0 }), .enlist "B" "b" (.scripted [] { free := 0 }),
    .enlist "C" "c" (.scripted [] { free := 0 }), .add 0 0, .speculative 0 0 { slack := 1 },
    .begin (.create 0 .preferRemote 1 [] none false)] ++ List.replicate 5 (Move.step (.speculative 0)) ++
  [Move.step (.errand 1), .step (.errand 1), .add 0 1, .add 0 2] ++
  List.replicate 6 (Move.step (.speculative 0))

/-- The fulfiller of that run is at rest and asks two of the three providers. -/
theorem speculative_sized_at_rest_of_three : ∃ f board roster,
    (run .plain sizedRun).world.speculative[0]? = some f ∧
      (run .plain sizedRun).world.scene.boards[0]? = some board ∧
      (run .plain sizedRun).world.scene.rosters[0]? = some roster ∧
      f.point = .idle ∧ f.wanted (board.registry.candidateCount f.constraint) = 2 ∧
      roster.members.length = 3 ∧ f.IsAtRest board roster := by
  have hidle : (run .plain sizedRun).world.speculative[0]?.any (fun f =>
      f.board == 0 && f.roster == 0 && f.settings.slack.toNat == 1 && f.point == .idle &&
        f.constraint == .localPreferredAndRemote) = true := by decide +kernel
  have hboards : (run .plain sizedRun).world.scene.boards[0]?.all (fun board =>
      board.registry.candidateCount .localPreferredAndRemote == 1) = true := by decide +kernel
  have hmembers : (run .plain sizedRun).world.scene.rosters[0]?.all (·.members.length == 3) = true := by
    decide +kernel
  have hreserved : (run .plain sizedRun).ReservedByFulfillers 0 := by decide +kernel
  have hnone : (run .plain sizedRun).world.IsUnreserved 0 := by decide +kernel
  have hblocked : ((run .plain sizedRun).world.step .plain (.speculative 0)).isNone = true := by
    decide +kernel
  obtain ⟨f, hf, hpoint⟩ := (Option.any_eq_true _ _).mp hidle
  simp only [Bool.and_eq_true, beq_iff_eq] at hpoint
  obtain ⟨⟨⟨⟨hboard, hroster⟩, hslack⟩, hpoint⟩, hconstraint⟩ := hpoint
  have hcount : ∀ board, (run .plain sizedRun).world.scene.boards[f.board]? = some board →
      board.registry.candidateCount f.constraint = 1 := fun board hfound => by
    rw [hboard] at hfound
    rw [hconstraint]
    simpa [hfound] using hboards
  obtain ⟨board, roster, hfound, hlisted, hrest⟩ := speculative_sized_at_rest .plain sizedRun hf hpoint
    (hboard ▸ hreserved) (Option.isNone_iff_eq_none.mp hblocked) (hboard ▸ hnone) fun board hfound => by
      rw [hcount board hfound, hslack]
      decide
  refine ⟨f, board, roster, hf, hboard ▸ hfound, hroster ▸ hlisted, hpoint, ?_, ?_, hrest⟩
  · rw [hcount board hfound, Speculative.wanted, hslack]
    rfl
  · rw [hroster] at hlisted
    simpa [hlisted] using hmembers

end CoreBroker
