import CoreBroker.Proofs.Registry.Identity
import CoreBroker.Proofs.Runs.Onsets
import CoreBroker.Proofs.Runs.Reservers
import CoreBroker.Proofs.Speculative.Matching
set_option autoImplicit false

/-!
# Locality

A core may outlive the demand that it was obtained for: it is kept as a spare, or in an obtainment, and goes
to a later request.  So what a fulfiller may serve is asked anew whenever a request is selected for a core.
A dedicated fulfiller selects a request when it reserves it and assigns the core some steps later; a
speculative one selects requests and assigns cores in one step.
-/

namespace CoreBroker

/-! ## What the settings admit -/

/-- Whether a dedicated fulfiller with these settings serves a request of some age.  One that serves local
requests waits until a request that prefers a remote core is as old as the delay, if there is a delay; one
that does not serves no request that requires a local core. -/
def DedicatedSettings.Admits (settings : DedicatedSettings) (preference : Preference) (age : Nat) :
    Prop :=
  match preference with
  | .requireLocal => settings.servesLocal = true
  | .preferLocal => True
  | .preferRemote => settings.servesLocal = true → ∀ delay ∈ settings.remoteDelay, delay.toNat ≤ age

/-- Whether a speculative fulfiller with these settings serves a request. -/
def SpeculativeSettings.Admits (settings : SpeculativeSettings) (preference : Preference) : Prop :=
  preference = .requireLocal → settings.servesLocal = true

/-- What is served is served when it is older. -/
theorem DedicatedSettings.Admits.later {settings : DedicatedSettings} {preference : Preference}
    {age age' : Nat} (h : settings.Admits preference age) (hle : age ≤ age') :
    settings.Admits preference age' := by
  cases preference with
  | requireLocal => exact h
  | preferLocal => exact h
  | preferRemote => exact fun hlocal delay hdelay => Nat.le_trans (h hlocal delay hdelay) hle

/-- A dedicated fulfiller looks for the requests that its settings admit. -/
theorem Dedicated.isServable_iff {f : Dedicated} {r : Request Core} {now : Nat} :
    r.isServable f.settings.servesLocal f.offeredDelay now = true ↔
      f.settings.Admits r.preference (r.age now) := by
  unfold Request.isServable DedicatedSettings.Admits
  cases f.settings.servesLocal with
  | false =>
    cases r.preference <;> simp [Registry.primaryConstraint, Constraint.admits, Preference.isLocal]
  | true =>
    cases r.preference with
    | requireLocal => simp [Registry.primaryConstraint, Constraint.admits]
    | preferLocal => simp [Registry.primaryConstraint, Constraint.admits]
    | preferRemote =>
      cases hdelay : f.settings.remoteDelay with
      | none => simp [Registry.primaryConstraint, Constraint.admits, offeredDelay, hdelay]
      | some delay => simp [Registry.primaryConstraint, Constraint.admits, offeredDelay, hdelay]

theorem Speculative.admits_iff {f : Speculative} {preference : Preference} :
    f.constraint.admits preference = true ↔ f.settings.Admits preference := by
  unfold Speculative.constraint SpeculativeSettings.Admits
  cases f.settings.servesLocal with
  | false => cases preference <;> simp [Constraint.admits, Preference.isLocal]
  | true => cases preference <;> simp [Constraint.admits]

/-! ## Selection by a dedicated fulfiller -/

namespace Dedicated

variable {f : Dedicated} {s : Scene} {me b id : Nat}

/-- Whatever request the loop comes to have reserved is the next one at that moment. -/
theorem step_chooses {r : Dedicated × Scene} (hstep : f.step me s = some r)
    (hbefore : ¬ f.Claims b id) (hclaims : r.1.Claims b id) :
    ∃ g changes q, s.stage.boards[b]? = some (g, changes) ∧
      g.next? f.settings.servesLocal f.offeredDelay s.now = some q ∧ q.id = id := by
  cases step_loopStep hstep with
  | waits _ => exact absurd hclaims hbefore
  | @chooses core board s₁ _ haside hboard hclock =>
    unfold choose at hclaims
    split at hclaims
    · exact absurd hclaims (not_claims rfl)
    · rename_i q hnext
      obtain ⟨rfl, core', hclaim⟩ := hclaims
      obtain ⟨-, hid⟩ : core = core' ∧ q.id = id := by
        simpa [claim?, goTo, DedicatedPoint.claim?] using hclaim
      rw [Scene.now, hclock] at hnext
      rw [haside.stage] at hboard
      exact ⟨board.registry, _, q, hboard, hnext, hid⟩
  | begins _ | wakes _ => exact absurd hclaims (not_claims (turn_claim _ _))
  | closes _ _ => exact absurd hclaims (not_claims (close_claim _ _))
  | receives _ _ => exact absurd hclaims (not_claims (receive_claim _ _ _))
  | resumes _ | disposed _ => exact absurd hclaims (not_claims (f.pass_goesOn s).claim)
  | judges _ _ isAlive => exact absurd hclaims (not_claims (judge_claim _ _ isAlive _))
  | places _ _ _ => exact absurd hclaims (not_claims (place_claim _ _ _ _))
  | _ => exact absurd hclaims (not_claims rfl)

/-- Whatever request the loop comes to have reserved is one that its settings admit at that moment. -/
theorem step_selects (hstage : s.stage.IsSound) {r : Dedicated × Scene} (hstep : f.step me s = some r)
    (hbefore : ¬ f.Claims b id) (hclaims : r.1.Claims b id) :
    ∃ q, s.request? b id = some q ∧ q.isCandidate .all = true ∧
      f.settings.Admits q.preference (q.age s.now) := by
  obtain ⟨g, changes, q, hboard, hnext, rfl⟩ := step_chooses hstep hbefore hclaims
  obtain ⟨hmem, hcandidate⟩ := Registry.next?_candidate hnext
  have hfound := Registry.get?_of_mem (hstage.requests hboard).1 hmem
  exact ⟨q, (Scene.request?_of_board hboard).trans hfound, hcandidate,
    isServable_iff.mp (Registry.next?_servable hnext)⟩

theorem CoreFlow.reserves {events : List Event} {f' : Dedicated} (hflow : f.CoreFlow events f')
    (hbefore : ¬ f.Claims b id) (hclaims : f'.Claims b id) : .changed b (.reserved id) ∈ events := by
  obtain ⟨hboard, core, hclaim⟩ := hclaims
  have hsame : f'.board = f.board := by rw [hflow.same]
  cases hflow with
  | along _ _ hkept => exact absurd ⟨hsame.symm.trans hboard, core, hkept ▸ hclaim⟩ hbefore
  | offered _ _ _ _ hnow =>
    obtain ⟨rfl, rfl⟩ := Prod.mk.inj (Option.some.inj (hnow.symm.trans hclaim))
    rw [← hboard, hsame]
    simp
  | received _ _ _ _ hnone | disposed _ _ _ _ hnone | assigned _ _ _ _ hnone
  | refused _ _ _ _ hnone => exact absurd (hnone.symm.trans hclaim) (by simp)

/-- A step assigns a core only to the request that the loop has reserved for it. -/
theorem CoreFlow.claims_of_assigned {events : List Event} {f' : Dedicated} (hflow : f.CoreFlow events f')
    {core : Core} (hassigned : .changed b (.assigned id core) ∈ events) :
    b = f.board ∧ f.claim? = some (core, id) := by
  cases hflow with
  | assigned _ _ _ hclaimed _ =>
    simp only [List.mem_cons, Event.changed.injEq, reduceCtorEq, and_false, false_or, List.not_mem_nil,
      or_false, RegistryChange.assigned.injEq] at hassigned
    obtain ⟨rfl, rfl, rfl⟩ := hassigned
    exact ⟨rfl, hclaimed⟩
  | _ => simp at hassigned

end Dedicated

/-! ## Runs -/

namespace World

/-- In the world `w` the request `r` of the registry `b` is one that the settings of a fulfiller admit. -/
def Admits (w : World) (t : Task) (b : Nat) (r : Request Core) : Prop :=
  match t with
  | .dedicated i => ∃ f, w.dedicated[i]? = some f ∧ f.board = b ∧
      f.settings.Admits r.preference (r.age w.scene.now)
  | .speculative i => ∃ f, w.speculative[i]? = some f ∧ f.board = b ∧ f.settings.Admits r.preference
  | _ => False

/-- The next step of a task makes this change of the registry `b`. -/
def Changes (w : World) (chance : Chance) (t : Task) (b : Nat) (change : RegistryChange Core) : Prop :=
  .changed b change ∈ w.news (w.perform chance (.step t))

end World

/-- A core is assigned to the request `id` of the registry `b` by the loop of the dedicated fulfiller `i`:
after the moves `first` the loop reserves the request, which it serves, and has it reserved throughout the
moves `second`; then it assigns the core, and still serves the request. -/
structure DedicatedServes (chance : Chance) (i b id : Nat) (core : Core) (first second : List Move) :
    Prop where
  selected : ∃ r, (run chance first).world.scene.request? b id = some r ∧ r.isCandidate .all = true ∧
    (run chance first).world.Admits (.dedicated i) b r ∧
      (run chance first).world.Changes chance (.dedicated i) b (.reserved id)
  kept : Throughout chance (·.Holds b id (.loop i)) (first ++ [.step (.dedicated i)]) second
  assigned : ∃ r, (run chance (first ++ .step (.dedicated i) :: second)).world.scene.request? b id =
      some r ∧
    (run chance (first ++ .step (.dedicated i) :: second)).world.Admits (.dedicated i) b r ∧
      (run chance (first ++ .step (.dedicated i) :: second)).world.Changes chance (.dedicated i) b
        (.assigned id core)

/-- A core is assigned to the request `id` of the registry `b` by the loop of the speculative fulfiller
`i` after the moves `first`: the request is selected in the same step, and the loop serves it. -/
structure SpeculativeServes (chance : Chance) (i b id : Nat) (core : Core) (first : List Move) :
    Prop where
  selected : ∃ r, (run chance first).world.scene.request? b id = some r ∧ r.isCandidate .all = true ∧
    (run chance first).world.Admits (.speculative i) b r
  assigned : (run chance first).world.Changes chance (.speculative i) b (.assigned id core)

section Run

variable {chance : Chance} {moves : List Move} {i b id : Nat} {core : Core}

/-- The loop reserves a request by a step of its own. -/
theorem selects_of_perform {w : World} (hw : w.IsSound) {m : Move}
    (hbefore : ¬ w.Holds b id (.loop i)) (hholds : (w.perform chance m).Holds b id (.loop i)) :
    m = .step (.dedicated i) ∧ ∃ r, w.scene.request? b id = some r ∧ r.isCandidate .all = true ∧
      w.Admits (.dedicated i) b r ∧ w.Changes chance (.dedicated i) b (.reserved id) := by
  obtain ⟨f', hf', hclaims⟩ := hholds
  obtain ⟨f, rfl, hf, hstep, hsteps⟩ := World.dedicated_onset (P := (·.Claims b id)) (fun _ _ h => h)
    (fun _ _ hpoint => Dedicated.not_claims (by rw [Dedicated.claim?, hpoint]; rfl)) hw hf' hclaims
    (fun f hf h => hbefore ⟨f, hf, h⟩)
  have hnot : ¬ f.Claims b id := fun h => hbefore ⟨f, hf, h⟩
  obtain ⟨r, hrequest, hcandidate, hadmits⟩ := Dedicated.step_selects hw.scene.stage hstep hnot hclaims
  have hboard : f.board = b := by
    rw [← hclaims.1, hsteps.flow.same]
  exact ⟨rfl, r, hrequest, hcandidate, ⟨f, hf, hboard, hadmits⟩, hsteps.flow.reserves hnot hclaims⟩

/-- Whatever a dedicated fulfiller assigns, it assigns to a request that it has reserved since before. -/
theorem dedicated_serves
    (hassigned : (run chance moves).world.Changes chance (.dedicated i) b (.assigned id core)) :
    ∃ first second, moves = first ++ .step (.dedicated i) :: second ∧
      DedicatedServes chance i b id core first second := by
  have hholds : (run chance moves).world.Holds b id (.loop i) := by
    obtain ⟨f, f', hf, -, hsteps⟩ := World.dedicated_of_mem_news (run_isSound chance moves) hassigned
    obtain ⟨rfl, hclaim⟩ := hsteps.flow.claims_of_assigned hassigned
    exact ⟨f, hf, rfl, core, hclaim⟩
  obtain ⟨first, m, second, rfl, hnot, hkept⟩ := exists_onset chance
    (P := fun w => w.Holds b id (.loop i)) (fun ⟨f, hf, _⟩ => absurd hf (by simp)) moves hholds
  have hthen := hkept.first
  rw [run_concat] at hthen
  obtain ⟨rfl, r, hrequest, hcandidate, hadmits, hreserved⟩ :=
    selects_of_perform (run_isSound chance first) hnot hthen
  refine ⟨first, second, rfl, ⟨r, hrequest, hcandidate, hadmits, hreserved⟩, hkept, ?_⟩
  -- The request and the fulfiller are what they were, and the clock has not gone back.
  obtain ⟨r', hrequest', hlasts⟩ := request_lasts hrequest (.step (.dedicated i) :: second)
  obtain ⟨f, hf, hboard, hadmits⟩ := hadmits
  obtain ⟨f', hf', hsame⟩ := dedicated_lasts hf (.step (.dedicated i) :: second)
  refine ⟨r', hrequest', ⟨f', hf', hsame.board.trans hboard, ?_⟩, hassigned⟩
  rw [hsame.settings, hlasts.preference]
  exact hadmits.later (hlasts.age_le
    (run_precedes chance first (.step (.dedicated i) :: second)).now)

/-- Whatever a speculative fulfiller assigns, it assigns to a request that it selects in the same step. -/
theorem speculative_serves
    (hassigned : (run chance moves).world.Changes chance (.speculative i) b (.assigned id core)) :
    SpeculativeServes chance i b id core moves := by
  have hw := run_isSound chance moves
  obtain ⟨f, f', hf, hstep, haccounts⟩ := World.speculative_of_mem_news hw hassigned
  have hmatches := Speculative.step_matches hw.scene.stage
    (hw.speculative f (List.mem_of_getElem? hf)) hstep haccounts.acts.story_eq hassigned
  obtain ⟨rfl, r, hrequest, hcandidate⟩ := hmatches.requests _ _ _ hassigned
  refine ⟨⟨r, hrequest, Request.isCandidate_all hcandidate, f, hf, rfl, ?_⟩, hassigned⟩
  simp only [Request.isCandidate, Bool.and_eq_true] at hcandidate
  exact Speculative.admits_iff.mp hcandidate.2

/-- An attempt changes no registry. -/
theorem attempt_changes_nothing {n : Nat} {change : RegistryChange Core} :
    ¬ (run chance moves).world.Changes chance (.attempt i n) b change := by
  intro hchanged
  obtain ⟨f, f', a, -, -, hstep⟩ := World.attempt_of_mem_news (run_isSound chance moves) hchanged
  obtain ⟨events, hstory, hnone⟩ := Speculative.stepAttempt_quiet hstep
  rw [World.Changes, World.news_of_story hstory] at hchanged
  exact hnone b change hchanged

end Run

/-- Locality is respected.  In every run, whatever a fulfiller assigns goes to a request that its settings
admit when the request is selected, and still when the core is assigned; attempts assign nothing. -/
theorem locality_respected (chance : Chance) (moves : List Move) :
    (∀ i b id core, (⟨some (.dedicated i), .changed b (.assigned id core)⟩ : Deed) ∈
        (run chance moves).deeds →
      ∃ first second third,
        moves = first ++ .step (.dedicated i) :: (second ++ .step (.dedicated i) :: third) ∧
          DedicatedServes chance i b id core first second) ∧
    (∀ i b id core, (⟨some (.speculative i), .changed b (.assigned id core)⟩ : Deed) ∈
        (run chance moves).deeds →
      ∃ first second, moves = first ++ .step (.speculative i) :: second ∧
        SpeculativeServes chance i b id core first) ∧
    ∀ i n b id core, (⟨some (.attempt i n), .changed b (.assigned id core)⟩ : Deed) ∉
      (run chance moves).deeds := by
  refine ⟨fun i b id core hdeed => ?_, fun i b id core hdeed => ?_, fun i n b id core hdeed => ?_⟩
  · obtain ⟨before, third, rfl, hassigned⟩ := exists_step_of_deed rfl hdeed
    obtain ⟨first, second, rfl, hserves⟩ := dedicated_serves hassigned
    exact ⟨first, second, third, by simp, hserves⟩
  · obtain ⟨first, second, rfl, hassigned⟩ := exists_step_of_deed rfl hdeed
    exact ⟨first, second, rfl, speculative_serves hassigned⟩
  · obtain ⟨before, later, rfl, hassigned⟩ := exists_step_of_deed rfl hdeed
    exact attempt_changes_nothing hassigned

/-- A local fulfiller obtains a core for a request that requires a local one.  The request is disposed of, so
that the core becomes a spare one, and five milliseconds later the core is assigned to a request that prefers
a remote core. -/
def spareRun : List Move :=
  [Move.found, .enlist "P" "p" (.scripted [{ course := .core }] { free := 0 }),
    .dedicated 0 0 ⟨0, "p"⟩ { remoteDelay := some 5 },
    .begin (.create 0 .requireLocal 1 [] none false), .step (.errand 1), .step (.errand 1),
    .begin (.create 0 .preferRemote 1 [] none false), .step (.errand 3), .step (.errand 3)] ++
  List.replicate 4 (Move.step (.dedicated 0)) ++
  [Move.begin (.dispose 0 2), .step (.errand 9), .step (.dedicated 0), .advance 5] ++
  List.replicate 4 (Move.step (.dedicated 0))

theorem locality_respected_of_spare :
    ∃ first second third,
      spareRun = first ++ .step (.dedicated 0) :: (second ++ .step (.dedicated 0) :: third) ∧
        DedicatedServes .plain 0 0 4 ⟨7, "P", 1, "p", .immediate⟩ first second :=
  (locality_respected .plain spareRun).1 0 0 4 ⟨7, "P", 1, "p", .immediate⟩ (by decide +kernel)

end CoreBroker
