import CoreBroker.Proofs.Dedicated.Ownership
import CoreBroker.Proofs.Registry.Reserved
import CoreBroker.Proofs.Scene.Guards
set_option autoImplicit false

/-!
# Reservations and marks

The client and the dedicated fulfillers hold as many reservations of a request as it has marks, so at
most one, and none of a request that is not marked.
-/

namespace CoreBroker

/-- How many reservations of the request `id` of the registry `b` are held, by whomever. -/
def World.reservations (w : World) (b id : Nat) : Nat :=
  w.locked b id + (w.dedicated.map fun f => f.claimed b id).sum

namespace Dedicated

variable {f : Dedicated} {b id : Nat}

/-- A loop claims a request just if it has a reservation of it. -/
theorem claimed_pos_iff : 0 < f.claimed b id ↔ f.Claims b id := by
  rw [claimed, Nat.pos_iff_ne_zero, ne_eq, Bool.toNat_eq_zero, Bool.not_eq_false,
    Option.any_eq_true]
  constructor
  · rintro ⟨⟨core, n⟩, hclaim, hsame⟩
    simp only [Bool.and_eq_true, beq_iff_eq] at hsame
    exact ⟨hsame.1, core, by rw [hclaim, hsame.2]⟩
  · rintro ⟨hb, core, hclaim⟩
    exact ⟨(core, id), hclaim, by simp [hb]⟩

theorem claimed_of_starting (hpoint : f.point = .starting) : f.claimed b id = 0 := by
  simp [claimed, claim?, hpoint, DedicatedPoint.claim?]

end Dedicated

/-- A speculative fulfiller changes requests only by assigning cores to them. -/
theorem Speculative.assigned_of_acts {subscription : Subscription} {s s' : Scene} {events : List Event}
    (hacts : Scene.ActSequence (Speculative.May subscription) s events s') {b : Nat}
    {change : RegistryChange Core} (hmem : .changed b change ∈ events) :
    ∃ id core, change = .assigned id core := by
  obtain ⟨st, act, hmay, hact⟩ := hacts.of_mem_events hmem
  cases act with
  | changed board other =>
    rw [Act.events, List.mem_singleton, Event.changed.injEq] at hact
    obtain ⟨-, rfl⟩ := hact
    cases change with
    | assigned id core => exact ⟨id, core, rfl⟩
    | _ => exact absurd hmay (by simp [Speculative.May])
  | remarked e =>
    rw [Act.events, List.mem_singleton] at hact
    rw [← hact] at hmay
    exact absurd hmay (by simp [Speculative.May])
  | minted core => simp [Act.events] at hact
  | _ => exact absurd hact List.not_mem_nil

namespace World

variable {chance : Chance} {w w' : World} {actor : Option Task} {events : List Event}

/-- Somebody holds a reservation of a request just if there is one. -/
theorem reservations_pos_iff {b id : Nat} : 0 < w.reservations b id ↔ w.Reserves b id := by
  rw [reservations, Reserves]
  constructor
  · intro hpos
    rcases Nat.eq_zero_or_pos (w.locked b id) with hnone | hlocked
    · rw [hnone, Nat.zero_add, List.sum_pos_iff_exists_pos_nat] at hpos
      obtain ⟨n, hn, hpos⟩ := hpos
      obtain ⟨f, hf, rfl⟩ := List.mem_map.mp hn
      obtain ⟨i, hi⟩ := List.getElem?_of_mem hf
      exact .inr ⟨i, f, hi, Dedicated.claimed_pos_iff.mp hpos⟩
    · exact .inl hlocked
  · rintro (hlocked | ⟨i, f, hf, hclaims⟩)
    · exact Nat.lt_of_lt_of_le hlocked (Nat.le_add_right _ _)
    · have hmem := List.mem_map_of_mem (f := fun f => f.claimed b id) (List.mem_of_getElem? hf)
      have hpos := Dedicated.claimed_pos_iff.mpr hclaims
      exact Nat.lt_of_lt_of_le (List.sum_pos_iff_exists_pos_nat.mpr ⟨_, hmem, hpos⟩)
        (Nat.le_add_left _ _)

/-- Whatever happens, the reservations held are those that were made and not given up. -/
theorem Transition.reservations_eq (h : Transition chance w actor events w') (b id : Nat) :
    w'.reservations b id + events.count (.changed b (.unreserved id)) =
      w.reservations b id + events.count (.changed b (.reserved id)) := by
  have hspeculative : ∀ {f : Speculative} {s : Scene} {f' : Speculative} {s' : Scene},
      f.Accounts s events f' s' → events.count (.changed b (.unreserved id)) =
        events.count (.changed b (.reserved id)) := by
    intro f s f' s' haccounts
    have hnone : ∀ change : RegistryChange Core, (∀ n core, change ≠ .assigned n core) →
        events.count (.changed b change) = 0 := fun change hchange =>
      List.count_eq_zero.mpr fun hmem => by
        obtain ⟨n, core, heq⟩ := Speculative.assigned_of_acts haccounts.acts hmem
        exact hchange n core heq
    rw [hnone _ (by simp), hnone _ (by simp)]
  cases h with
  | @dedicated i f f' s _ hf _ hsteps =>
    have hclaims := hsteps.flow.claims_eq b id
    have hsum := sum_map_set hf f' fun f => f.claimed b id
    have hlocked : World.locked { w with scene := s, dedicated := w.dedicated.set i f' } b id =
      w.locked b id := rfl
    simp only [reservations, hlocked]
    omega
  | speculative _ _ haccounts => exact congrArg _ (hspeculative haccounts)
  | attempt _ _ _ haccounts => exact congrArg _ (hspeculative haccounts)
  | client _ hclient =>
    have hlocks := hclient.locks b id
    have hdedicated := sum_map_of_bare hclient.dedicated (f := fun f => f.claimed b id) fun _ => rfl
    simp only [reservations]
    omega
  | @employed f s _ _ _ hpoint _ _ _ _ =>
    simp [reservations, locked, Dedicated.claimed_of_starting hpoint]
  | engaged _ _ _ _ _ _ _ => rfl

end World

section Run

variable (chance : Chance) (moves : List Move) (b id : Nat)

/-- In every run a request has as many marks as there are reservations of it. -/
theorem reservations_eq_marked : (run chance moves).world.reservations b id =
    (run chance moves).world.scene.stage.marked b id := by
  have hle : (run chance moves).world.reservations b id ≤
      (run chance moves).world.scene.stage.marked b id := by
    refine run_keeps chance (P := fun c => c.world.reservations b id ≤
      c.world.scene.stage.marked b id) (Nat.le_refl 0) ?_ moves
    intro c actor events w' hsound htransition hbefore
    obtain ⟨may, hacts⟩ := htransition.acts
    have hmarked := hacts.marked_le hsound.scene.stage b id
    have hreservations := htransition.reservations_eq b id
    simp only [Chronicle.after]
    omega
  have hone := (run_isSound chance moves).scene.stage.marked_le_one b id
  have hge : 0 < (run chance moves).world.scene.stage.marked b id →
      0 < (run chance moves).world.reservations b id := by
    intro hpos
    exact World.reservations_pos_iff.mpr
      (reserves_of_isMarked chance moves (Stage.marked_pos_iff.mp hpos))
  omega

theorem reservations_eq_toNat {r : Request Core}
    (hr : r ∈ ((run chance moves).world.scene.boardAt b).registry.requests) :
    (run chance moves).world.reservations b r.id = r.isReserved.toNat := by
  have hids := ((run_isSound chance moves).scene.courseAt b).registryHistory.ids
  rw [reservations_eq_marked, Stage.marked, Scene.board_stage, Registry.marked_eq_of_mem hids hr]

end Run

end CoreBroker
