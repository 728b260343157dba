import CoreBroker.Proofs.Runs.Awareness
set_option autoImplicit false

/-!
# A dedicated fulfiller at rest

When nothing is left to be done, no request that the fulfiller is to serve waits unnoticed.  A loop that
rests has left nothing but requests which are still to be offered elsewhere, and a loop that waits for its
provider waits for the sake of some request.
-/

namespace CoreBroker

namespace Dedicated

variable {f : Dedicated} {s : Scene} {me : Nat}

/-- What a loop that rests leaves waiting in a registry: of the requests nobody has reserved none that
its primary constraint admits, and those that prefer a remote core only while they are young. -/
structure LeavesOnly (f : Dedicated) (g : Registry Core) (now : Nat) : Prop where
  primary : ∀ r ∈ g.requests,
    r.isCandidate (Registry.primaryConstraint f.settings.servesLocal) = false
  undelayed : f.settings.servesLocal = true → f.settings.remoteDelay = none →
    ∀ r ∈ g.requests, r.isCandidate .all = true → r.preference ≠ .preferRemote
  young : f.settings.servesLocal = true → ∀ delay, f.settings.remoteDelay = some delay →
    ∀ r ∈ g.requests, r.isCandidate .all = true → r.preference = .preferRemote →
      r.age now < 2 * delay.toNat

/-- What holds of the loop when nothing is left to be done. -/
structure IsAtRest (f : Dedicated) (s : Scene) : Prop where
  /-- A loop that rests has served whatever it is to serve. -/
  resting : ∀ lookAgainAt, f.point = .idle lookAgainAt →
    ∃ board, s.boards[f.board]? = some board ∧ f.LeavesOnly board.registry s.now
  /-- A loop that waits for its provider has a request to serve. -/
  calling : ∀ call, f.point = .calling call →
    ∃ board, s.boards[f.board]? = some board ∧
      board.registry.hasNext f.settings.servesLocal f.offeredDelay s.now = true

theorem isWaiting_of_isCandidate {c : Constraint} {r : Request Core}
    (hcandidate : r.isCandidate c = true) : r.isWaiting = true ∧ c.admits r.preference = true := by
  simp only [Request.isCandidate, Bool.and_eq_true] at hcandidate
  refine ⟨?_, hcandidate.2⟩
  rw [Request.isWaiting, hcandidate.1.1.1, hcandidate.1.1.2]
  rfl

/-- Where nothing could be served at `since`, only young requests are left before the time to look
again. -/
theorem leavesOnly_of_not_serves {g : Registry Core} {since now : Nat}
    (hnone : f.serves g.waiting since = false)
    (hearly : ∀ delay, f.settings.remoteDelay = some delay → now < since + delay.toNat) :
    f.LeavesOnly g now := by
  have hunserved : ∀ {c : Constraint}, ∀ r ∈ g.requests, r.isCandidate c = true →
      ¬ r.isServable f.settings.servesLocal f.offeredDelay since = true := fun r hr hcandidate =>
    List.any_eq_false.mp hnone r
      (Registry.mem_waiting.mpr ⟨hr, (isWaiting_of_isCandidate hcandidate).1⟩)
  have hprefers : f.settings.servesLocal = true → ∀ r ∈ g.requests, r.isCandidate .all = true →
      r.preference = .preferRemote → ∀ delay, f.offeredDelay = some delay → r.age since < delay := by
    intro hlocal r hr hcandidate hprefer delay hdelay
    have hnot := hunserved r hr hcandidate
    simp only [Request.isServable, hlocal, hprefer, hdelay, Option.any_some, beq_self_eq_true,
      Bool.true_and, Bool.or_eq_true, decide_eq_true_eq, not_or] at hnot
    exact Nat.lt_of_not_le hnot.2
  refine ⟨fun r hr => ?_, fun hlocal hdelay r hr hcandidate hprefer => ?_,
    fun hlocal delay hdelay r hr hcandidate hprefer => ?_⟩
  · rw [← Bool.not_eq_true]
    intro hcandidate
    refine hunserved r hr hcandidate ?_
    rw [Request.isServable, (isWaiting_of_isCandidate hcandidate).2]
    rfl
  · have hage := hprefers hlocal r hr hcandidate hprefer 0 (by rw [offeredDelay, hdelay]; rfl)
    exact absurd hage (Nat.not_lt_zero _)
  · -- It was younger than the delay when the loop looked, and less than the delay has passed since.
    have hage := hprefers hlocal r hr hcandidate hprefer delay.toNat
      (by rw [offeredDelay, hdelay]; rfl)
    have hbefore := hearly delay hdelay
    simp only [Request.age] at hage ⊢
    omega

/-- A loop that cannot go on has found nothing where it listens. -/
theorem isCalm_of_blocked (hready : s.boardReady f.board f.receiver = false)
    (hserved : s.stage.ServesBoard f.board f.receiver)
    (hfree : ∀ g changes, s.stage.boards[f.board]? = some (g, changes) → g.IsFree) :
    ∃ board, s.boards[f.board]? = some board ∧
      s.stage.IsCalm f.board f.receiver board.registry.waiting := by
  obtain ⟨g, changes, hstage, -⟩ := hserved
  obtain ⟨board, hboard, rfl, rfl⟩ := Scene.board_of_stage hstage
  refine ⟨board, hboard, board.registry, board.changes, hstage, ?_, hfree _ _ hstage, rfl⟩
  simpa [Scene.boardReady, hboard] using hready

/-- A fulfiller that is aware and cannot go on is at rest, where nobody holds a reservation. -/
theorem IsAware.isAtRest (haware : f.IsAware s) (hblocked : f.step me s = none)
    (hfree : ∀ g changes, s.stage.boards[f.board]? = some (g, changes) → g.IsFree) :
    f.IsAtRest s := by
  refine ⟨fun lookAgainAt hpoint => ?_, fun call hpoint => ?_⟩
  · have hserved := haware.served (by simp [isOver, hpoint])
    have hknows := haware.knows
    unfold Knows at hknows
    simp only [hpoint] at hknows
    simp only [step, hpoint] at hblocked
    split at hblocked
    · exact absurd hblocked (by simp)
    · rename_i hlive
      split at hblocked
      · exact absurd hblocked (by simp)
      · rename_i hquiet
        simp only [Bool.or_eq_true, not_or, Bool.not_eq_true] at hquiet
        obtain ⟨board, hboard, hcalm⟩ := isCalm_of_blocked hquiet.1 hserved hfree
        obtain ⟨since, hlook, hnone⟩ := hknows.resolve_left hlive
        refine ⟨board, hboard, leavesOnly_of_not_serves (hnone _ hcalm) fun delay hdelay => ?_⟩
        have hlater := hquiet.2
        rw [hlook, hdelay] at hlater
        simpa using hlater
  · have hserved := haware.served (by simp [isOver, hpoint])
    have hknows := haware.knows
    unfold Knows at hknows
    simp only [hpoint] at hknows
    simp only [step, hpoint] at hblocked
    split at hblocked
    · exact absurd hblocked (by simp)
    · split at hblocked
      · exact absurd hblocked (by simp)
      · exact absurd hblocked (by simp)
      · split at hblocked
        · exact absurd hblocked (by simp)
        · rename_i hquiet
          obtain ⟨board, hboard, hcalm⟩ :=
            isCalm_of_blocked (Bool.eq_false_iff.mpr hquiet) hserved hfree
          obtain ⟨hnone, -⟩ := hcalm.of_board (Scene.stage_board hboard)
          refine ⟨board, hboard, ?_⟩
          rw [hnone.hasNext_eq]
          exact hknows _ hcalm

end Dedicated

/-! ## Every run -/

section Run

variable (chance : Chance) (moves : List Move)

/-- No wakeup is lost: in whatever run only fulfillers reserve requests, a dedicated fulfiller that cannot
go on has left no request waiting that it is to serve, and waits for its provider only for the sake of some
request, as long as nobody holds a reservation. -/
theorem dedicated_demand_at_rest {i : Nat} {f : Dedicated}
    (hf : (run chance moves).world.dedicated[i]? = some f)
    (hreserved : (run chance moves).ReservedByFulfillers f.board)
    (hblocked : (run chance moves).world.step chance (.dedicated i) = none)
    (hnone : (run chance moves).world.IsUnreserved f.board) :
    f.IsAtRest (run chance moves).world.scene := by
  have haware : f.IsAware (run chance moves).world.scene :=
    (run_isAware chance moves hreserved).dedicated i f hf rfl
  have hwaits : f.step i (run chance moves).world.scene = none := by
    simpa [World.step, hf] using hblocked
  exact haware.isAtRest hwaits fun g changes hboard => isFree_of_isUnreserved chance moves hboard hnone

end Run

/-- A request that prefers a remote core is left to a fulfiller of such requests by one that serves local
requests, as long as it is young. -/
def restingRun : List Move :=
  [Move.found, .enlist "P" "p" (.scripted [] { free := 0 }), .enlist "Q" "q" (.scripted [] { free := 0 }),
    .dedicated 0 0 ⟨0, "p"⟩ { remoteDelay := some 1000 }, .dedicated 0 0 ⟨1, "q"⟩ { servesLocal := false },
    .begin (.create 0 .preferRemote 1 [] none false), .step (.errand 2), .step (.errand 2)] ++
  List.replicate 5 (Move.step (.dedicated 0)) ++ List.replicate 7 (Move.step (.dedicated 1)) ++
  [Move.advance 700]

/-- In that run one fulfiller rests and the other one waits for its provider, as they should. -/
theorem dedicated_demand_at_rest_resting : ∃ f g,
    (run .plain restingRun).world.dedicated[0]? = some f ∧
      (run .plain restingRun).world.dedicated[1]? = some g ∧
      f.point = .idle (some 1000) ∧ g.point.call?.isSome = true ∧
      f.IsAtRest (run .plain restingRun).world.scene ∧
      g.IsAtRest (run .plain restingRun).world.scene := by
  have hrests : (run .plain restingRun).world.dedicated[0]?.any
      (fun f => f.board == 0 && f.point == .idle (some 1000)) = true := by decide +kernel
  have hcalls : (run .plain restingRun).world.dedicated[1]?.any
      (fun g => g.board == 0 && g.point.call?.isSome) = true := by decide +kernel
  have hreserved : (run .plain restingRun).ReservedByFulfillers 0 := by decide +kernel
  have hnone : (run .plain restingRun).world.IsUnreserved 0 := by decide +kernel
  have hblocked : ∀ i < 2, ((run .plain restingRun).world.step .plain (.dedicated i)).isNone = true := by
    decide +kernel
  obtain ⟨f, hf, hfpoint⟩ := (Option.any_eq_true _ _).mp hrests
  obtain ⟨g, hg, hgpoint⟩ := (Option.any_eq_true _ _).mp hcalls
  simp only [Bool.and_eq_true, beq_iff_eq] at hfpoint hgpoint
  refine ⟨f, g, hf, hg, hfpoint.2, hgpoint.2, ?_, ?_⟩
  · exact dedicated_demand_at_rest .plain restingRun hf (hfpoint.1 ▸ hreserved)
      (Option.isNone_iff_eq_none.mp (hblocked 0 (by decide))) (hfpoint.1 ▸ hnone)
  · exact dedicated_demand_at_rest .plain restingRun hg (hgpoint.1 ▸ hreserved)
      (Option.isNone_iff_eq_none.mp (hblocked 1 (by decide))) (hgpoint.1 ▸ hnone)

end CoreBroker
