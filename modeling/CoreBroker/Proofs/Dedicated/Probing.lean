import CoreBroker.Proofs.Dedicated.Steps
set_option autoImplicit false

/-!
# What a dedicated fulfiller asks its cores

A core that comes into the hands of the loop, from the provider or from the place of the spare one, is asked
whether it works before anything else is done with it.  One that does goes on to a request or becomes the
spare core, and one that does not is disposed of at once.
-/

namespace CoreBroker

namespace Dedicated

variable {f : Dedicated} {s : Scene} {me ticket : Nat} {core : Core}

/-- The loop asks a core whether it works; `ticket` is what the probe waits with. -/
def Asks (f : Dedicated) (core : Core) (ticket : Nat) : Prop := f.point = .probing core ticket

/-- The loop has heard that a core works and looks for a request, or has reserved one. -/
def Trusts (f : Dedicated) (core : Core) : Prop :=
  f.point = .choosing core ∨ ∃ id, f.point = .placing core id

/-- The loop keeps a core as the spare one. -/
def Keeps (f : Dedicated) (core : Core) : Prop := f.spare = some core

theorem Asks.mem_cores (hasks : f.Asks core ticket) : core ∈ f.cores := by
  simp [cores, show f.point = _ from hasks, DedicatedPoint.core?]

theorem Trusts.mem_cores (htrusts : f.Trusts core) : core ∈ f.cores := by
  rcases htrusts with hpoint | ⟨id, hpoint⟩ <;> simp [cores, hpoint, DedicatedPoint.core?]

theorem Keeps.mem_cores (hkeeps : f.Keeps core) : core ∈ f.cores := by
  simp [cores, show f.spare = _ from hkeeps]

theorem Keeps.not_trusts (hsound : f.IsSound) (hkeeps : f.Keeps core) : ¬ f.Trusts core := by
  obtain ⟨lookAgainAt, hidle⟩ := hsound (Option.isSome_iff_exists.mpr ⟨core, hkeeps⟩)
  rintro (hpoint | ⟨id, hpoint⟩) <;> exact absurd (hidle.symm.trans hpoint) (by simp)

/-- A loop that asks is told whatever there is to be told. -/
theorem step_of_answers (hasks : f.Asks core ticket) {isAlive : Bool} {s₁ : Scene}
    (hlook : s.lookAtProbe core ticket f.shutdown = .answered isAlive s₁) :
    f.step me s = some (f.judge core isAlive s₁) := by
  simp only [step, show f.point = _ from hasks, hlook]

/-- At the head of a pass the loop asks no core but the spare one. -/
theorem pass_asks (hasks : (f.pass s).1.Asks core ticket) : f.Keeps core := by
  unfold pass at hasks
  split at hasks
  · exact absurd hasks (by simp [Asks, rest, goTo])
  · split at hasks
    · rename_i spare hspare
      obtain ⟨rfl, -⟩ := DedicatedPoint.probing.inj hasks
      exact hspare
    · exact absurd hasks (by simp [Asks, goTo])

theorem not_asks_close (f : Dedicated) (s : Scene) (core : Core) (ticket : Nat) :
    ¬ (f.close s).1.Asks core ticket := by
  rcases f.close_point s with hpoint | hpoint <;> simp [Asks, hpoint]

theorem turn_asks (hasks : (f.turn s).1.Asks core ticket) : f.Keeps core := by
  unfold turn at hasks
  split at hasks
  · exact absurd hasks (not_asks_close f s core ticket)
  · exact pass_asks hasks

theorem not_trusts_pass (f : Dedicated) (s : Scene) (core : Core) : ¬ (f.pass s).1.Trusts core := by
  unfold pass
  split
  · simp [Trusts, rest, goTo]
  · split <;> simp [Trusts, probe, goTo]

theorem not_trusts_close (f : Dedicated) (s : Scene) (core : Core) : ¬ (f.close s).1.Trusts core := by
  rcases f.close_point s with hpoint | hpoint <;> simp [Trusts, hpoint]

theorem not_trusts_turn (f : Dedicated) (s : Scene) (core : Core) : ¬ (f.turn s).1.Trusts core := by
  unfold turn
  split
  · exact not_trusts_close f s core
  · exact not_trusts_pass f s core

/-- If the loop held nothing, or was placing a core, whatever it holds after a step and is not placing was
handed out or refused. -/
theorem CoreFlow.brings {events : List Event} {f' : Dedicated} (hflow : f.CoreFlow events f')
    (hbefore : f.cores = [] ∨ f.claim?.isSome) (hmem : core ∈ f'.cores) (hfree : f'.claim? = none) :
    .minted core ∈ events ∨ ∃ id, .refused f.board id core ∈ events := by
  cases hflow with
  | along _ hcores hclaim =>
    rw [← hcores, ← hclaim, hfree] at hbefore
    simp only [Option.isSome_none, Bool.false_eq_true, or_false] at hbefore
    exact absurd hmem (by simp [hbefore])
  | received _ _ hcores _ _ =>
    rw [hcores, List.mem_singleton] at hmem
    exact .inl (by simp [hmem])
  | disposed _ _ hcores _ _ => exact absurd hmem (by simp [hcores])
  | offered _ _ _ _ hclaim => exact absurd (hclaim.symm.trans hfree) (by simp)
  | assigned _ _ hcores _ _ => exact absurd hmem (by simp [hcores])
  | @refused _ core' id _ _ hcores _ _ =>
    rw [hcores, List.mem_singleton] at hmem
    exact .inr ⟨id, by simp [hmem]⟩

/-- A core that the loop comes to ask was handed out just now, was the spare one, or was refused. -/
theorem step_asks (hsound : f.IsSound) {r : Dedicated × Scene} (hstep : f.step me s = some r)
    {events : List Event} (hflow : f.CoreFlow events r.1) (hbefore : ¬ f.Asks core ticket)
    (hasks : r.1.Asks core ticket) :
    f.Keeps core ∨ .minted core ∈ events ∨ ∃ id, .refused f.board id core ∈ events := by
  have hfree : r.1.claim? = none := by
    rw [claim?, show r.1.point = _ from hasks]
    rfl
  cases step_loopStep hstep with
  | waits _ => exact absurd hasks hbefore
  | begins _ => exact .inl (turn_asks hasks)
  | receives hpoint _ _ =>
    refine .inr (hflow.brings (.inl ?_) hasks.mem_cores hfree)
    rw [cores_eq_core (spare_eq_none hsound fun _ => by simp [hpoint]), hpoint]
    rfl
  | resumes _ => exact .inl (pass_asks hasks)
  | judges _ _ isAlive =>
    unfold judge at hasks
    split at hasks <;> exact absurd hasks (by simp [Asks, goTo])
  | disposed _ => exact .inl (pass_asks hasks)
  | closes _ => exact absurd hasks (not_asks_close _ _ core ticket)
  | chooses _ _ _ =>
    unfold choose at hasks
    split at hasks <;> exact absurd hasks (by simp [Asks, rest, goTo])
  | places hpoint _ _ =>
    refine .inr (hflow.brings (.inr ?_) hasks.mem_cores hfree)
    rw [claim?, hpoint]
    rfl
  | wakes _ => exact .inl (turn_asks hasks)
  | _ => exact absurd hasks (by simp [Asks, rest, goTo, call, finish])

/-- The loop comes to trust a core by being told that it works. -/
theorem step_trusts {r : Dedicated × Scene} (hstep : f.step me s = some r)
    (hbefore : ¬ f.Trusts core) (htrusts : r.1.Trusts core) :
    ∃ ticket, f.Asks core ticket ∧ s.Answers core ticket f.shutdown true := by
  cases step_loopStep hstep with
  | waits _ => exact absurd htrusts hbefore
  | begins _ => exact absurd htrusts (not_trusts_turn _ _ core)
  | @receives _ result _ _ _ _ =>
    cases result <;> exact absurd htrusts (by simp [Trusts, receive, probe, goTo])
  | resumes _ => exact absurd htrusts (not_trusts_pass _ _ core)
  | @judges asked ticket s₁ hpoint _ isAlive hlook =>
    cases isAlive with
    | false => exact absurd htrusts (by simp [Trusts, judge, goTo])
    | true =>
      obtain rfl : asked = core := by simpa [Trusts, judge, goTo] using htrusts
      exact ⟨ticket, hpoint, s₁, hlook⟩
  | disposed _ => exact absurd htrusts (not_trusts_pass _ _ core)
  | closes _ => exact absurd htrusts (not_trusts_close _ _ core)
  | @chooses chosen _ _ hpoint _ _ _ =>
    refine absurd (.inl ?_) hbefore
    unfold choose at htrusts
    split at htrusts
    · exact absurd htrusts (by simp [Trusts, rest, goTo])
    · obtain rfl : chosen = core := by simpa [Trusts, goTo] using htrusts
      exact hpoint
  | @places core' request _ s₁ _ _ _ =>
    unfold place at htrusts
    split at htrusts <;> exact absurd htrusts (not_trusts_pass _ _ core)
  | wakes _ => exact absurd htrusts (not_trusts_turn _ _ core)
  | _ => exact absurd htrusts (by simp [Trusts, rest, goTo, call, finish])

/-- A core of which the loop is told that it does not work is disposed of in the same step. -/
theorem step_discards (hsound : f.IsSound) (hasks : f.Asks core ticket) {s₁ : Scene}
    (hlook : s.lookAtProbe core ticket f.shutdown = .answered false s₁)
    {r : Dedicated × Scene} (hstep : f.step me s = some r) {events : List Event}
    (hflow : f.CoreFlow events r.1) : .disposed core ∈ events := by
  obtain rfl := Option.some.inj (hstep.symm.trans (step_of_answers hasks hlook))
  have hpoint : f.point = .probing core ticket := hasks
  have hspare := spare_eq_none hsound fun _ => by simp [hpoint]
  have hbefore : f.cores = [core] := by
    rw [cores_eq_core hspare, hpoint]
    rfl
  have hafter : (f.judge core false s₁).1.cores = [] := by
    rw [judge, if_neg Bool.false_ne_true]
    exact cores_eq_core hspare
  cases hflow with
  | along _ hcores _ => exact absurd (hcores.symm.trans hafter) (by simp [hbefore])
  | received _ hnone _ _ _ => exact absurd (hnone.symm.trans hbefore) (by simp)
  | disposed _ hcore _ _ _ =>
    obtain rfl := List.singleton_inj.mp (hcore.symm.trans hbefore)
    exact List.mem_singleton.mpr rfl
  | offered _ _ hcores _ _ | refused _ _ hcores _ _ => exact absurd (hcores.symm.trans hafter) (by simp)
  | assigned _ _ _ hclaimed _ =>
    exact absurd hclaimed (by simp [claim?, hpoint, DedicatedPoint.claim?])

end Dedicated

end CoreBroker
