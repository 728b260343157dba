import CoreBroker.Proofs.Runs.Fulfillers
set_option autoImplicit false

/-!
# Reservations

In every world that a run comes to, a request that is reserved is reserved for somebody: the client holds
the reservation, or a dedicated fulfiller is about to place a core in the request.
-/

namespace CoreBroker

/-- The loop of a dedicated fulfiller has reserved the request `id` of the registry `b`. -/
def Dedicated.Claims (f : Dedicated) (b id : Nat) : Prop :=
  f.board = b ∧ ∃ core, f.claim? = some (core, id)

/-- Somebody holds a reservation of the request `id` of the registry `b`. -/
def World.Reserves (w : World) (b id : Nat) : Prop :=
  0 < w.locked b id ∨ ∃ (i : Nat) (f : Dedicated), w.dedicated[i]? = some f ∧ f.Claims b id

theorem lastMark_ne_true_of_isOfLoop {subscription : Subscription} {s s' : Scene} {events : List Event}
    {b id : Nat} (hacts : Scene.ActSequence (Speculative.May subscription) s events s') :
    lastMark b id events ≠ some true := by
  refine lastMark_ne_true fun hmem => ?_
  obtain ⟨st, act, hmay, hact⟩ := hacts.of_mem_events hmem
  cases act with
  | changed board change =>
    rw [Act.events, List.mem_singleton, Event.changed.injEq] at hact
    rw [← hact.2] at hmay
    exact hmay
  | remarked e =>
    rw [Act.events, List.mem_singleton] at hact
    rw [← hact] at hmay
    exact hmay
  | minted core => simp [Act.events] at hact
  | _ => exact absurd hact List.not_mem_nil

namespace Dedicated

variable {f f' : Dedicated} {events : List Event} {b id : Nat}

/-- What a step of the loop leaves reserved it has reserved itself. -/
theorem CoreFlow.claims_of_mark (hflow : f.CoreFlow events f')
    (hmark : lastMark b id events = some true) : f'.Claims b id := by
  cases hflow with
  | along _ _ _ => exact absurd hmark (by simp [lastMark])
  | received _ _ _ _ _ => exact absurd hmark (by simp [lastMark, Event.marks?])
  | disposed _ _ _ _ _ => exact absurd hmark (by simp [lastMark, Event.marks?])
  | @offered _ core n hsame _ _ _ hclaim =>
    have hthis : f.board = b ∧ n = id := by simpa [lastMark, Event.marks?] using hmark
    refine ⟨?_, core, hthis.2 ▸ hclaim⟩
    rw [hsame]
    exact hthis.1
  | assigned _ _ _ _ _ => exact absurd hmark (lastMark_ne_true (by simp))
  | refused _ _ _ _ _ => exact absurd hmark (lastMark_ne_true (by simp))

/-- What a step of the loop does not touch stays reserved. -/
theorem CoreFlow.claims_of_no_mark (hflow : f.CoreFlow events f') (hmark : lastMark b id events = none)
    (hclaims : f.Claims b id) : f'.Claims b id := by
  obtain ⟨hb, core, hclaim⟩ := hclaims
  have hfree : f.claim? ≠ none := by simp [hclaim]
  cases hflow with
  | along hsame _ hsameClaim =>
    refine ⟨?_, core, hsameClaim.trans hclaim⟩
    rw [hsame]
    exact hb
  | received _ _ _ hnone _ => exact absurd hnone hfree
  | disposed _ _ _ hnone _ => exact absurd hnone hfree
  | offered _ _ _ hnone _ => exact absurd hnone hfree
  | assigned _ _ _ hclaimed _ =>
    rw [hclaim] at hclaimed
    cases hclaimed
    exact absurd hmark (by simp [lastMark, Event.marks?, hb])
  | refused _ _ _ hclaimed _ =>
    rw [hclaim] at hclaimed
    cases hclaimed
    exact absurd hmark (by simp [lastMark, Event.marks?, hb])

end Dedicated

namespace World

variable {chance : Chance} {w w' : World} {actor : Option Task} {events : List Event}

theorem reserves_of_eq (hdedicated : w'.dedicated.map Dedicated.bare = w.dedicated.map Dedicated.bare)
    {b id : Nat} {i : Nat} {f : Dedicated} (hf : w.dedicated[i]? = some f) (hclaims : f.Claims b id) :
    w'.Reserves b id := by
  have hmap : w'.dedicated[i]?.map Dedicated.bare = some f.bare := by
    rw [← List.getElem?_map, hdedicated, List.getElem?_map, hf]
    rfl
  obtain ⟨f', hf', hbare⟩ := Option.map_eq_some_iff.mp hmap
  refine .inr ⟨i, f', hf', ?_⟩
  rw [Dedicated.eq_of_bare hbare]
  exact hclaims

/-- Whatever happens, a reserved request is reserved for somebody. -/
theorem Transition.reserves (hw : w.IsSound) (h : Transition chance w actor events w') {b id : Nat}
    (hbefore : w.scene.stage.IsMarked b id → w.Reserves b id)
    (hmarked : w'.scene.stage.IsMarked b id) : w'.Reserves b id := by
  cases h with
  | @dedicated i f f' s _ hf _ hsteps =>
    have hlt := (List.getElem?_eq_some_iff.mp hf).1
    have hthis : (w.dedicated.set i f')[i]? = some f' := List.getElem?_set_self hlt
    rcases hsteps.acts.isMarked hw.scene.stage hmarked with hmark | ⟨hnone, hmarked⟩
    · exact .inr ⟨i, f', hthis, hsteps.flow.claims_of_mark hmark⟩
    · rcases hbefore hmarked with hlocked | ⟨k, g, hg, hclaims⟩
      · exact .inl hlocked
      · by_cases hik : i = k
        · subst hik
          rw [hf] at hg
          cases hg
          exact .inr ⟨i, f', hthis, hsteps.flow.claims_of_no_mark hnone hclaims⟩
        · exact .inr ⟨k, g, (List.getElem?_set_ne hik).trans hg, hclaims⟩
  | speculative _ _ haccounts =>
    rcases haccounts.acts.isMarked hw.scene.stage hmarked with hmark | ⟨-, hmarked⟩
    · exact absurd hmark (lastMark_ne_true_of_isOfLoop haccounts.acts)
    · exact hbefore hmarked
  | attempt _ _ _ haccounts =>
    rcases haccounts.acts.isMarked hw.scene.stage hmarked with hmark | ⟨-, hmarked⟩
    · exact absurd hmark (lastMark_ne_true_of_isOfLoop haccounts.acts)
    · exact hbefore hmarked
  | client _ hclient =>
    rcases hclient.marks hw.scene.stage b id hmarked with hlocked | ⟨hnot, hmarked⟩
    · exact .inl hlocked
    · rcases hbefore hmarked with hlocked | ⟨i, f, hf, hclaims⟩
      · have hlocks := hclient.locks b id
        rw [List.count_eq_zero.mpr hnot] at hlocks
        exact .inl (by omega)
      · exact reserves_of_eq hclient.dedicated hf hclaims
  | employed _ _ _ _ _ hacts =>
    rcases hacts.isMarked hw.scene.stage hmarked with hmark | ⟨-, hmarked⟩
    · exact absurd hmark (lastMark_ne_true List.not_mem_nil)
    · rcases hbefore hmarked with hlocked | ⟨i, f, hf, hclaims⟩
      · exact .inl hlocked
      · have hlt := (List.getElem?_eq_some_iff.mp hf).1
        exact .inr ⟨i, f, (List.getElem?_append_left hlt).trans hf, hclaims⟩
  | engaged _ _ _ _ _ _ hacts =>
    rcases hacts.isMarked hw.scene.stage hmarked with hmark | ⟨-, hmarked⟩
    · exact absurd hmark (lastMark_ne_true List.not_mem_nil)
    · exact hbefore hmarked

end World

theorem reserves_of_isMarked (chance : Chance) (moves : List Move) {b id : Nat}
    (hmarked : (run chance moves).world.scene.stage.IsMarked b id) :
    (run chance moves).world.Reserves b id := by
  refine run_keeps chance (P := fun c => c.world.scene.stage.IsMarked b id → c.world.Reserves b id)
    ?_ ?_ moves hmarked
  · rintro ⟨g, changes, hboard, -⟩
    exact absurd hboard (by simp [Scene.stage])
  · exact fun c actor events w' hsound htransition ih hmarked =>
      htransition.reserves hsound ih hmarked

end CoreBroker
