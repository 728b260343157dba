import CoreBroker.Proofs.Dedicated.Awareness
import CoreBroker.Proofs.Runs.Keeping
import CoreBroker.Proofs.Speculative.AwareSteps
set_option autoImplicit false

/-!
# What happens to one fulfiller

Of all that happens in a run, a fulfiller is changed by its own tasks alone; the client may at most attach
a sink or queue for the guard of its obtainments.
-/

namespace CoreBroker

/-- An errand of a client. -/
def Task.isErrand : Task → Bool
  | .errand _ => true
  | _ => false

/-- The loop or an attempt of the speculative fulfiller `i`. -/
def Task.isOfTeam (i : Nat) : Task → Bool
  | .speculative k | .attempt k _ => k == i
  | _ => false

namespace World

variable {chance : Chance} {w w' : World} {actor : Option Task} {events : List Event}

/-- What one transition is to the dedicated fulfiller `i`. -/
inductive DedicatedTransition (w : World) (actor : Option Task) (events : List Event) (w' : World)
    (i : Nat) : Prop
  /-- Its loop takes a step. -/
  | acts {f f' : Dedicated} (hactor : actor = some (.dedicated i))
      (hf : w.dedicated[i]? = some f) (hf' : w'.dedicated[i]? = some f')
      (hstep : f.step i w.scene = some (f', w'.scene)) (hsteps : f.Steps w.scene events f' w'.scene)
  /-- It is as it was, but for its sink. -/
  | stays (hactor : actor ≠ some (.dedicated i))
      (hsame : w'.dedicated[i]?.map Dedicated.bare = w.dedicated[i]?.map Dedicated.bare)
  /-- It is set up. -/
  | starts {f : Dedicated} (hactor : actor = none) (hnone : w.dedicated[i]? = none)
      (hf : w'.dedicated[i]? = some f) (hspare : f.spare = none) (hpoint : f.point = .starting)
      (hserved : w'.scene.stage.ServesBoard f.board f.receiver)

/-- What one transition is to the speculative fulfiller `i`. -/
inductive SpeculativeTransition (chance : Chance) (w : World) (actor : Option Task) (events : List Event)
    (w' : World) (i : Nat) : Prop
  /-- Its loop or one of its attempts takes a step. -/
  | acts {f f' : Speculative} (hactor : actor.any (Task.isOfTeam i) = true)
      (hf : w.speculative[i]? = some f) (hf' : w'.speculative[i]? = some f')
      (htakes : f.step chance i w.scene = some (f', w'.scene) ∨
        ∃ a ∈ f.attempts, f.stepAttempt i a w.scene = some (f', w'.scene))
      (haccounts : f.Accounts w.scene events f' w'.scene)
  /-- It is as it was, but for its sink and the guard of its obtainments. -/
  | stays (hactor : actor.any (Task.isOfTeam i) = false)
      (hsame : w'.speculative[i]?.map Speculative.bare = w.speculative[i]?.map Speculative.bare)
      (hguard : ∀ f f', w.speculative[i]? = some f → w'.speculative[i]? = some f' →
        f.guard.holder = some (.speculative i) → f'.guard.holder = some (.speculative i))
  /-- It is set up. -/
  | starts {f : Speculative} (hactor : actor = none) (hnone : w.speculative[i]? = none)
      (hf : w'.speculative[i]? = some f) (hstates : f.states = []) (hattempts : f.attempts = [])
      (hexits : f.exits = []) (howners : f.owners = []) (hpoint : f.point = .starting)
      (hserved : f.subscription.IsServed w'.scene.stage)

/-- A fulfiller that has not changed has not lost the guard of its obtainments. -/
theorem guard_of_eq {i : Nat} (hsame : w'.speculative[i]? = w.speculative[i]?) (f f' : Speculative)
    (hf : w.speculative[i]? = some f) (hf' : w'.speculative[i]? = some f')
    (hholder : f.guard.holder = some (.speculative i)) :
    f'.guard.holder = some (.speculative i) := by
  rw [hsame, hf] at hf'
  cases hf'
  exact hholder

theorem Transition.dedicatedTransition (hw : w.IsSound) (h : Transition chance w actor events w') (i : Nat) :
    DedicatedTransition w actor events w' i := by
  cases h with
  | @dedicated k f f' s _ hf hstep hsteps =>
    by_cases hki : k = i
    · subst hki
      have hlt := (List.getElem?_eq_some_iff.mp hf).1
      exact .acts rfl hf (List.getElem?_set_self hlt) hstep hsteps
    · exact .stays (by simpa using hki) (by simp [List.getElem?_set_ne hki])
  | speculative _ _ _ => exact .stays (by simp) rfl
  | attempt _ _ _ _ => exact .stays (by simp) rfl
  | client hactor hclient =>
    refine .stays (fun heq => ?_) ?_
    · obtain ⟨n, hn⟩ := hactor _ heq
      exact absurd hn (by simp)
    · rw [← List.getElem?_map, ← List.getElem?_map, hclient.dedicated]
  | @employed f s _ _ hspare hpoint hboard hreceiver hstage _ =>
    by_cases hi : i = w.dedicated.length
    · subst hi
      refine .starts rfl (by simp) (List.getElem?_concat_length) hspare hpoint ?_
      rw [hstage, hreceiver]
      exact hw.scene.stage.servesBoard_subscribe hboard
    · refine .stays (by simp) (congrArg _ ?_)
      rcases Nat.lt_or_ge i w.dedicated.length with hlt | hge
      · exact List.getElem?_append_left hlt
      · rw [List.getElem?_eq_none hge, List.getElem?_eq_none]
        rw [List.length_append, List.length_singleton]
        omega
  | engaged _ _ _ _ _ _ _ => exact .stays (by simp) rfl

theorem Transition.speculativeTransition (hw : w.IsSound) (h : Transition chance w actor events w')
    (i : Nat) : SpeculativeTransition chance w actor events w' i := by
  cases h with
  | dedicated _ _ _ => exact .stays rfl rfl (guard_of_eq rfl)
  | @speculative k f f' s _ hf hstep haccounts =>
    by_cases hki : k = i
    · subst hki
      have hlt := (List.getElem?_eq_some_iff.mp hf).1
      exact .acts (by simp [Task.isOfTeam]) hf (List.getElem?_set_self hlt) (.inl hstep) haccounts
    · exact .stays (by simpa [Task.isOfTeam] using hki) (by simp [List.getElem?_set_ne hki])
        (guard_of_eq (List.getElem?_set_ne hki))
  | @attempt k f f' a s _ hf ha hstep haccounts =>
    by_cases hki : k = i
    · subst hki
      have hlt := (List.getElem?_eq_some_iff.mp hf).1
      exact .acts (by simp [Task.isOfTeam]) hf (List.getElem?_set_self hlt) (.inr ⟨a, ha, hstep⟩)
        haccounts
    · exact .stays (by simpa [Task.isOfTeam] using hki) (by simp [List.getElem?_set_ne hki])
        (guard_of_eq (List.getElem?_set_ne hki))
  | client hactor hclient =>
    refine .stays ?_ ?_ (hclient.guards i)
    · cases actor with
      | none => rfl
      | some t =>
        obtain ⟨n, rfl⟩ := hactor t rfl
        rfl
    · rw [← List.getElem?_map, ← List.getElem?_map, hclient.speculative]
  | employed _ _ _ _ _ _ => exact .stays rfl rfl (guard_of_eq rfl)
  | @engaged f s g changes members rosterChanges hnew hboard hreceiver hroster hrosterReceiver
      hstage _ =>
    by_cases hi : i = w.speculative.length
    · subst hi
      refine .starts rfl (by simp) (List.getElem?_concat_length) ?_ ?_ ?_ ?_ ?_ ?_
      · rw [hnew]
      · rw [hnew]
      · rw [hnew]
      · rw [hnew]
      · rw [hnew]
      · rw [hstage]
        have hserved := hw.scene.stage.servesBoard_subscribe hboard
        have hrosterServed := hw.scene.stage.servesRoster_subscribe hroster
        rw [← hreceiver] at hserved
        rw [← hrosterReceiver] at hrosterServed
        exact ⟨hserved, hrosterServed⟩
    · have hsame : (w.speculative ++ [f])[i]? = w.speculative[i]? := by
        rcases Nat.lt_or_ge i w.speculative.length with hlt | hge
        · exact List.getElem?_append_left hlt
        · rw [List.getElem?_eq_none hge, List.getElem?_eq_none]
          rw [List.length_append, List.length_singleton]
          omega
      exact .stays rfl (congrArg _ hsame) (guard_of_eq hsame)

end World

end CoreBroker
