import CoreBroker.Proofs.Runs.Locks
import CoreBroker.Proofs.Runs.Restraint
set_option autoImplicit false

/-!
# Reservations are exclusive

A reservation is made under the guard of the registry and given up without it, and a snapshot outlives
the moment it was taken.  Yet no snapshot that is kept lists a request that is reserved: it has the guard,
and so long as it has that nothing is reserved.
-/

namespace CoreBroker

namespace World

variable {chance : Chance} {w w' : World}

/-! ## Snapshots have their guards -/

/-- The snapshots that the client keeps have the guards of different registries and list nothing that is
reserved. -/
structure IsGuarded (w : World) : Prop where
  boards : (w.snapshots.map (·.board)).Nodup
  held : ∀ snapshot ∈ w.snapshots, w.scene.IsHeld snapshot.board snapshot.serial
  unmarked : ∀ snapshot ∈ w.snapshots, ∀ id ∈ snapshot.requests,
    w.scene.stage.marked snapshot.board id = 0

/-- The giving up of a snapshot concerns the registry of the snapshot alone. -/
theorem dropSnapshot_keeps (w : World) (snapshot : Snapshot) :
    Scene.Keeps (some snapshot.board) (fun _ _ => False) w.scene (w.dropSnapshot snapshot).scene :=
  w.scene.keeps_leave snapshot.board

namespace IsGuarded

theorem respectsGuards {who : Nat → Nat → Prop} (h : w.IsGuarded) (hrespects : RespectsGuards who w w') :
    w'.IsGuarded := by
  have hheld : ∀ snapshot ∈ w.snapshots, w'.scene.IsHeld snapshot.board snapshot.serial :=
    fun snapshot hmem => (hrespects.scene _).held _ (by simp) (h.held snapshot hmem)
  have hunmarked : ∀ snapshot ∈ w.snapshots, ∀ id ∈ snapshot.requests,
      w'.scene.stage.marked snapshot.board id = 0 := fun snapshot hmem id hid => by
    have hle := marked_le_of_keeps hrespects.scene (h.held snapshot hmem) id
    rw [h.unmarked snapshot hmem id hid] at hle
    exact Nat.le_zero.mp hle
  cases hrespects.snapshotsKept with
  | same hsame => exact ⟨hsame ▸ h.boards, hsame ▸ hheld, hsame ▸ hunmarked⟩
  | @taken snapshot hlist hfree hnewHeld hnewUnmarked =>
    have hcases : ∀ other ∈ w'.snapshots, other ∈ w.snapshots ∨ other = snapshot := fun other hother => by
      rw [hlist] at hother
      exact (List.mem_append.mp hother).imp_right List.mem_singleton.mp
    refine ⟨?_, fun other hother => ?_, fun other hother => ?_⟩
    · rw [hlist, List.map_append, List.nodup_append]
      refine ⟨h.boards, List.nodup_singleton _, fun b hb b' hb' heq => ?_⟩
      obtain ⟨other, hother, rfl⟩ := List.mem_map.mp hb
      -- The guard of an older snapshot could not have been got.
      have hboard : other.board = snapshot.board := heq.trans (List.mem_singleton.mp hb')
      exact hfree other.serial (hboard ▸ h.held other hother)
    · rcases hcases other hother with hold | rfl
      · exact hheld other hold
      · exact hnewHeld
    · rcases hcases other hother with hold | rfl
      · exact hunmarked other hold
      · exact hnewUnmarked

/-- Giving one snapshot up touches no other. -/
theorem dropped (h : w.IsGuarded) {snapshot : Snapshot} (hmem : snapshot ∈ w.snapshots) :
    (w.dropSnapshot snapshot).IsGuarded := by
  have hkeeps := w.dropSnapshot_keeps snapshot
  have hothers : ∀ other ∈ (w.dropSnapshot snapshot).snapshots,
      other ∈ w.snapshots ∧ ¬ some snapshot.board = some other.board := by
    intro other hother
    obtain ⟨hold, hne⟩ := List.mem_filter.mp hother
    refine ⟨hold, fun heq => ?_⟩
    have hsame := List.inj_on_of_nodup_map h.boards hold hmem (Option.some.inj heq).symm
    exact absurd hne (by simp [hsame])
  refine ⟨h.boards.sublist (List.filter_sublist.map _), fun other hother => ?_, fun other hother => ?_⟩
  · obtain ⟨hold, hne⟩ := hothers other hother
    exact (hkeeps _).held _ hne (h.held other hold)
  · obtain ⟨hold, hne⟩ := hothers other hother
    intro id hid
    have hle := (hkeeps other.board).marks _ hne (h.held other hold) id
    have hbefore := h.unmarked other hold id hid
    rw [Stage.marked, Scene.board_stage] at hbefore ⊢
    exact Nat.le_zero.mp (hbefore ▸ hle)

/-- Every move keeps the snapshots and their guards together. -/
theorem perform (h : w.IsGuarded) (hw : w.IsSound) (m : Move) : (w.perform chance m).IsGuarded := by
  rcases perform_drops_or_respectsGuards chance hw m with ⟨snapshot, hmem, hdrop⟩ | hrespects
  · rw [hdrop]
    exact h.dropped hmem
  · exact h.respectsGuards hrespects

end IsGuarded

end World

theorem run_isGuarded (chance : Chance) (moves : List Move) : (run chance moves).world.IsGuarded :=
  run_keeps_world ⟨List.nodup_nil, fun _ h => absurd h List.not_mem_nil,
    fun _ h => absurd h List.not_mem_nil⟩ (fun _ m hw h => h.perform hw m) moves

/-! ## Reserved requests are hidden from others -/

/-- The registry `b` without the requests of which somebody holds a reservation. -/
def World.unreserved (w : World) (b : Nat) : Registry Core :=
  ⟨(w.scene.boardAt b).registry.requests.filter fun r => w.reservations b r.id == 0⟩

/-- Reservations of the requests of the registry `b` are exclusive: each request has at most one and is
marked just while it has one, and whoever has none of a request neither gets nor counts nor sees it. -/
structure World.IsExclusive (w : World) (b : Nat) : Prop where
  once : ∀ id, w.reservations b id ≤ 1
  marks : ∀ r ∈ (w.scene.boardAt b).registry.requests,
    r.isReserved = true ↔ w.reservations b r.id = 1
  /-- No snapshot that is kept lists a reserved request. -/
  snapshots : ∀ snapshot ∈ w.snapshots, snapshot.board = b → ∀ id ∈ snapshot.requests,
    w.reservations b id = 0
  /-- The next request to be reserved is not reserved. -/
  next : ∀ includeLocal remoteDelay now r,
    (w.scene.boardAt b).registry.next? includeLocal remoteDelay now = some r →
      w.reservations b r.id = 0
  nextSame : ∀ includeLocal remoteDelay now,
    (w.scene.boardAt b).registry.next? includeLocal remoteDelay now =
      (w.unreserved b).next? includeLocal remoteDelay now
  hasNext : ∀ includeLocal remoteDelay now,
    (w.scene.boardAt b).registry.hasNext includeLocal remoteDelay now =
      (w.unreserved b).hasNext includeLocal remoteDelay now
  count : ∀ c, (w.scene.boardAt b).registry.candidateCount c = (w.unreserved b).candidateCount c

/-- In every run, whatever the order in which requests are reserved, listed, fulfilled, disposed of and
given up, reservations are exclusive. -/
theorem reservations_exclusive (chance : Chance) (moves : List Move) (b : Nat) :
    (run chance moves).world.IsExclusive b := by
  have hguarded := run_isGuarded chance moves
  have hreservations := reservations_eq_marked chance moves b
  have hsound := (run_isSound chance moves).scene.stage
  generalize (run chance moves).world = w at hguarded hreservations hsound ⊢
  have hids : ((w.scene.boardAt b).registry.requests.map (·.id)).Nodup := by
    have hboard := hsound.board_ids b
    rwa [Scene.board_stage] at hboard
  have hmarked : ∀ r ∈ (w.scene.boardAt b).registry.requests,
      w.reservations b r.id = r.isReserved.toNat := by
    intro r hr
    rw [hreservations, Stage.marked, Scene.board_stage]
    exact Registry.marked_eq_of_mem hids hr
  have hcandidate : ∀ r ∈ (w.scene.boardAt b).registry.requests, r.isCandidate .all = true →
      (w.reservations b r.id == 0) = true := by
    intro r hr hcandidate
    simp only [Request.isCandidate, Bool.and_eq_true, Bool.not_eq_true'] at hcandidate
    rw [hmarked r hr, hcandidate.1.2]
    rfl
  refine ⟨fun id => ?_, fun r hr => ?_, ?_, ?_, ?_, ?_, ?_⟩
  · rw [hreservations]
    exact hsound.marked_le_one b id
  · rw [hmarked r hr]
    cases r.isReserved <;> simp
  · rintro snapshot hmem rfl id hid
    rw [hreservations]
    exact hguarded.unmarked snapshot hmem id hid
  · intro includeLocal remoteDelay now r hnext
    obtain ⟨hr, hall⟩ := Registry.next?_candidate hnext
    exact beq_iff_eq.mp (hcandidate r hr hall)
  · exact fun includeLocal remoteDelay now => (Registry.next?_filter hcandidate _ _ _).symm
  · exact fun includeLocal remoteDelay now => (Registry.hasNext_filter hcandidate _ _ _).symm
  · exact fun c => (Registry.candidateCount_filter hcandidate c).symm

end CoreBroker
