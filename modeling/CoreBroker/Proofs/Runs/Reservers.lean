import CoreBroker.Proofs.Runs.Exclusion
import CoreBroker.Proofs.Runs.Onsets
import Mathlib.Data.List.Induction
set_option autoImplicit false

/-!
# Who holds reservations

A reservation is held by the client, as a lock, or by the loop of a dedicated fulfiller.  A request is
reserved by at most one of them, and by the same one since before it got a core.
-/

namespace CoreBroker

/-- Somebody who may hold a reservation. -/
inductive Reserver where
  | client (lock : Lock)
  | loop (i : Nat)

namespace World

variable {chance : Chance} {w w' : World} {b id : Nat}

/-- The reserver has a reservation of the request `id` of the registry `b`. -/
def Holds (w : World) (b id : Nat) : Reserver → Prop
  | .client lock => lock ∈ w.locks ∧ lock.board = b ∧ lock.request = id
  | .loop i => ∃ f, w.dedicated[i]? = some f ∧ f.Claims b id

/-- The move is a step of what the reserver does to pass a core to the request that it has reserved. -/
def IsOwnCall (w : World) (m : Move) : Reserver → Prop
  | .client lock => ∃ n core, m = .step (.errand n) ∧ (n, Errand.assign lock core) ∈ w.errands
  | .loop i => m = .step (.dedicated i)

/-- The move passes a core, through a snapshot of the registry `b` that is kept, to the request `id`,
which the snapshot does not list. -/
def IsUnlistedCall (w : World) (b id : Nat) (m : Move) : Prop :=
  ∃ snapshot ∈ w.snapshots, ∃ core, m = .assignUnder snapshot id core ∧ snapshot.board = b ∧
    id ∉ snapshot.requests

/-- The move assigns a core to the request `id` of the registry `b`. -/
def Assigns (w : World) (chance : Chance) (b id : Nat) (m : Move) : Prop :=
  ¬ (w.scene.boardAt b).registry.Fulfils id ∧
    ((w.perform chance m).scene.boardAt b).registry.Fulfils id

/-! ## One reserver -/

theorem locked_pos_of_mem {lock : Lock} (hlock : lock ∈ w.locks) :
    0 < w.locked lock.board lock.request :=
  List.countP_pos_iff.mpr ⟨lock, hlock, by simp⟩

theorem Holds.reserves {reserver : Reserver} (hholds : w.Holds b id reserver) : w.Reserves b id := by
  cases reserver with
  | client lock =>
    obtain ⟨hlock, rfl, rfl⟩ := hholds
    exact .inl (locked_pos_of_mem hlock)
  | loop i =>
    obtain ⟨f, hf, hclaims⟩ := hholds
    exact .inr ⟨i, f, hf, hclaims⟩

/-- A request that is reserved at most once has at most one reserver. -/
theorem Holds.unique {reserver other : Reserver} (honce : w.reservations b id ≤ 1)
    (hholds : w.Holds b id reserver) (hother : w.Holds b id other) : reserver = other := by
  have hclaimed : ∀ {i : Nat} {f : Dedicated}, w.dedicated[i]? = some f → f.Claims b id →
      0 < (w.dedicated.map fun f => f.claimed b id).sum := fun hf hclaims =>
    List.sum_pos_iff_exists_pos_nat.mpr
      ⟨_, List.mem_map_of_mem (List.mem_of_getElem? hf), Dedicated.claimed_pos_iff.mpr hclaims⟩
  rw [reservations] at honce
  cases reserver with
  | client lock =>
    obtain ⟨hlock, rfl, rfl⟩ := hholds
    have hlocked := locked_pos_of_mem hlock
    cases other with
    | client lock' =>
      obtain ⟨hlock', hboard, hrequest⟩ := hother
      exact congrArg _ (eq_of_countP_le_one (Nat.le_trans (Nat.le_add_right _ _) honce) hlock (by simp)
        hlock' (by simp [hboard, hrequest]))
    | loop i =>
      obtain ⟨f, hf, hclaims⟩ := hother
      have hloop := hclaimed hf hclaims
      omega
  | loop i =>
    obtain ⟨f, hf, hclaims⟩ := hholds
    have hloop := hclaimed hf hclaims
    cases other with
    | client lock =>
      obtain ⟨hlock, rfl, rfl⟩ := hother
      have hlocked := locked_pos_of_mem hlock
      omega
    | loop k =>
      obtain ⟨f', hf', hclaims'⟩ := hother
      exact congrArg _ (index_eq_of_sum_le_one (Nat.le_trans (Nat.le_add_left _ _) honce) hf
        (Dedicated.claimed_pos_iff.mpr hclaims) hf' (Dedicated.claimed_pos_iff.mpr hclaims'))

/-! ## Who assigns cores -/

/-- A move assigns cores only to requests that it may. -/
theorem Assigns.mayAssign (hw : w.IsSound) {m : Move} (hassigns : w.Assigns chance b id m) :
    w.MayAssign b id m := by
  obtain ⟨hbefore, hafter⟩ := hassigns
  rcases perform_drops_or_respectsGuards chance hw m with ⟨snapshot, -, hdrop⟩ | hrespects
  · rw [hdrop] at hafter
    exact absurd ((w.dropSnapshot_keeps snapshot b).assigned id (fun h => h) hafter) hbefore
  · by_contra hnot
    exact hbefore ((hrespects.scene b).assigned id hnot hafter)

/-! ## Reserved since before the core came -/

/-- Whoever has reserved a request after a move had reserved it before, or the request has no core. -/
theorem holds_of_perform (hw : w.IsSound) {m : Move} {reserver : Reserver}
    (hholds : (w.perform chance m).Holds b id reserver) :
    w.Holds b id reserver ∨ ¬ ((w.perform chance m).scene.boardAt b).registry.Fulfils id := by
  cases reserver with
  | client lock =>
    obtain ⟨hlock, rfl, rfl⟩ := hholds
    rcases perform_drops_or_respectsGuards chance hw m with ⟨snapshot, -, hdrop⟩ | hrespects
    · rw [hdrop] at hlock
      exact .inl ⟨hlock, rfl, rfl⟩
    · exact (hrespects.fresh lock hlock).imp_left fun hold => ⟨hold, rfl, rfl⟩
  | loop i =>
    by_cases hbefore : w.Holds b id (.loop i)
    · exact .inl hbefore
    · obtain ⟨f', hf', hclaims⟩ := hholds
      obtain ⟨f, -, hf, hstep, -⟩ := dedicated_onset (P := (·.Claims b id)) (fun _ _ h => h)
        (fun _ _ hpoint => Dedicated.not_claims (by rw [Dedicated.claim?, hpoint]; rfl)) hw hf' hclaims
        (fun f hf h => hbefore ⟨f, hf, h⟩)
      exact (Dedicated.step_claims hw.scene.stage hstep hclaims).imp_left fun h => ⟨f, hf, h⟩

end World

/-- In every run, whoever has reserved a request that has a core had reserved it when the core was
assigned to it. -/
theorem exists_assigning (chance : Chance) (moves : List Move) {b id : Nat} {reserver : Reserver}
    (hholds : (run chance moves).world.Holds b id reserver)
    (hfulfils : ((run chance moves).world.scene.boardAt b).registry.Fulfils id) :
    ∃ before m after, moves = before ++ m :: after ∧
      (run chance before).world.Holds b id reserver ∧
        (run chance before).world.Assigns chance b id m := by
  induction moves using List.reverseRecOn with
  | nil =>
    cases reserver with
    | client lock => exact absurd hholds.1 List.not_mem_nil
    | loop i =>
      obtain ⟨f, hf, -⟩ := hholds
      exact absurd hf (by simp [run])
  | append_singleton moves m ih =>
    rw [run_concat] at hholds hfulfils
    have hheld := (World.holds_of_perform (run_isSound chance moves) hholds).resolve_right
      fun hnot => hnot hfulfils
    by_cases hbefore : ((run chance moves).world.scene.boardAt b).registry.Fulfils id
    · obtain ⟨before, m', after, hmoves, hsplit⟩ := ih hheld hbefore
      refine ⟨before, m', after ++ [m], ?_, hsplit⟩
      rw [hmoves, List.append_assoc]
      rfl
    · exact ⟨moves, m, [], rfl, hheld, hbefore, hfulfils⟩

end CoreBroker
