import CoreBroker.Proofs.Runs.Onsets
import CoreBroker.Proofs.Runs.Oversight
import CoreBroker.Proofs.Speculative.Backoff
import CoreBroker.Proofs.Speculative.Tracking
set_option autoImplicit false

/-!
# A failing provider is left alone

After a failure an attempt keeps its provider engaged until its pause is over.  In every run, as long as
the provider stays on the roster, nothing but the cancellation of that attempt ends the pause before its
time.  Demand that goes away is such a cancellation: when it comes back the provider is asked at once.
-/

namespace CoreBroker

variable {chance : Chance} {i : Nat} {p : ProviderRef}

/-- The provider is on the roster of the fulfiller `i`. -/
def World.lists (w : World) (i : Nat) (p : ProviderRef) : Bool :=
  w.speculative[i]?.any fun f => decide (p ∈ f.members w.scene)

/-- No move of the run takes the provider off the roster of the fulfiller `i`. -/
def StaysListed (chance : Chance) (moves : List Move) (i : Nat) (p : ProviderRef) : Prop :=
  ∀ n < moves.length, (run chance (moves.take n)).world.lists i p = true →
    (run chance (moves.take (n + 1))).world.lists i p = true

theorem StaysListed.atEachMove {moves : List Move} (h : StaysListed chance moves i p) :
    AtEachMove chance (fun w w' => w.lists i p = true → w'.lists i p = true) moves := h

/-! ## Which attempts are told apart -/

/-- The fulfiller `i`, once it is there, tells the attempts on the provider apart, and tracks the provider
only while it is on the roster. -/
def World.TellsApart (w : World) (i : Nat) (p : ProviderRef) : Prop :=
  ∀ f, w.speculative[i]? = some f →
    f.TellsApart p w.scene ∧ (p ∈ f.states.providers → w.lists i p = true)

/-- Whatever move is made, as long as the provider is not taken off the roster. -/
theorem World.TellsApart.perform {w : World} {m : Move} (hw : w.IsSound) (h : w.TellsApart i p)
    (hwatches : w.Watches [] i) (hprecedes : w.scene.Precedes (w.perform chance m).scene)
    (hstays : w.lists i p = true → (w.perform chance m).lists i p = true) :
    (w.perform chance m).TellsApart i p := by
  intro g hg
  have hlists : ∀ f, w.speculative[i]? = some f → p ∈ f.members w.scene → w.lists i p = true :=
    fun f hf hp => by simpa [World.lists, hf] using hp
  cases World.speculativeMove chance hw m i with
  | @acts f f' _ hf hf' hstep haccounts =>
    obtain rfl := Option.some.inj (hg.symm.trans hf')
    have hids := (hw.speculative f (List.mem_of_getElem? hf)).ids
    obtain ⟨htells, hlisted⟩ := h f hf
    have hover : f.point = .idle → f.Oversees [] w.scene.nextSerial := fun hidle =>
      (hwatches.watches f hf).oversees (by rw [hidle]; rfl)
    refine ⟨Speculative.step_tellsApart hids htells hover (fun hp => ?_) hstep hprecedes,
      fun hp => hstays ?_⟩
    · exact Speculative.step_tracks_listed hids hstep hp (by simpa [World.lists, hf] using hlisted hp)
    · exact ((Speculative.step_keepsAttempts hids hstep).providers p hp).elim hlisted (hlists f hf)
  | @tries f f' a _ hf ha hf' hstep _ =>
    obtain rfl := Option.some.inj (hg.symm.trans hf')
    have hids := (hw.speculative f (List.mem_of_getElem? hf)).ids
    obtain ⟨htells, hlisted⟩ := h f hf
    refine ⟨Speculative.stepAttempt_tellsApart hids htells ha hstep hprecedes, fun hp => hstays ?_⟩
    exact hlisted (Speculative.stepAttempt_providers hids hstep ▸ hp)
  | stays _ hsame =>
    obtain ⟨f, hf, hbare⟩ := exists_of_map_eq hsame hg
    obtain ⟨htells, hlisted⟩ := h f hf
    rw [Speculative.eq_of_bare hbare]
    have hlater := htells.later hprecedes
    exact ⟨⟨hlater.owned, hlater.tracked, hlater.apart, hlater.awaited⟩, fun hp => hstays (hlisted hp)⟩
  | @starts f _ _ hf hstates hattempts howners hpoint =>
    obtain rfl := Option.some.inj (hg.symm.trans hf)
    have hknown : g.known = [] := by rw [Speculative.known, howners, hpoint]; rfl
    refine ⟨⟨?_, ?_, ?_, ?_⟩, fun hp => ?_⟩
    · simp [Speculative.working, hattempts]
    · simp [hknown]
    · simp [hknown]
    · simp [hattempts]
    · simp [States.providers, hstates] at hp

theorem run_tellsApart (chance : Chance) (moves : List Move) (hstays : StaysListed chance moves i p) :
    (run chance moves).world.TellsApart i p := by
  induction moves using List.reverseRecOn with
  | nil => exact fun f hf => absurd hf (by simp [run])
  | append_singleton moves m ih =>
    have hprecedes := run_precedes chance moves [m]
    rw [run_concat] at hprecedes ⊢
    exact (ih hstays.atEachMove.of_append).perform (run_isSound chance moves)
      (run_watches chance moves i) hprecedes hstays.atEachMove.last

/-! ## The pause -/

/-- The fulfiller `i` has an attempt that pauses until `wakeAt` and is otherwise as `a`, unless the pause is
over or the attempt was cancelled. -/
def World.Pauses (w : World) (i : Nat) (a : Attempt) (wakeAt : Nat) : Prop :=
  w.scene.isCancelled a.token = true ∨ wakeAt ≤ w.scene.now ∨
    ∃ f, w.speculative[i]? = some f ∧ a.resting wakeAt ∈ f.attempts

/-- Whatever move is made, the pause goes on. -/
theorem World.Pauses.perform {w : World} {m : Move} {a : Attempt} {wakeAt : Nat} (hw : w.IsSound)
    (h : w.Pauses i a wakeAt) (hprecedes : w.scene.Precedes (w.perform chance m).scene) :
    (w.perform chance m).Pauses i a wakeAt := by
  rcases h with hcancelled | hover | ⟨f, hf, ha⟩
  · exact .inl (hprecedes.isCancelled hcancelled)
  · exact .inr (.inl (Nat.le_trans hover hprecedes.now))
  have hsound := hw.speculative f (List.mem_of_getElem? hf)
  cases World.speculativeMove chance hw m i with
  | @acts g g' _ hg hg' hstep _ =>
    obtain rfl := Option.some.inj (hf.symm.trans hg)
    exact .inr (.inr ⟨g', hg', (Speculative.step_keepsAttempts hsound.ids hstep).attempts ha⟩)
  | @tries g g' b _ hg hb hg' hstep _ =>
    obtain rfl := Option.some.inj (hf.symm.trans hg)
    by_cases hthis : (a.resting wakeAt).serial = b.serial
    · have hsame : a.resting wakeAt = b := List.inj_on_of_nodup_map hsound.serials ha hb hthis
      rw [← hsame] at hstep
      rcases Speculative.over_of_stepAttempt rfl hstep with hcancelled | hover
      · exact .inl (hprecedes.isCancelled hcancelled)
      · exact .inr (.inl (Nat.le_trans hover hprecedes.now))
    · exact .inr (.inr ⟨g', hg', Speculative.stepAttempt_keepsAttempts ha hthis hstep⟩)
  | stays _ hsame =>
    obtain ⟨g, hg, hbare⟩ := exists_of_map_eq hsame.symm hf
    refine .inr (.inr ⟨g, hg, ?_⟩)
    rw [Speculative.eq_of_bare hbare.symm]
    exact ha
  | starts _ hnone _ _ _ _ _ => exact absurd (hnone.symm.trans hf) (by simp)

theorem run_pauses {moves : List Move} {a : Attempt} {wakeAt : Nat}
    (h : (run chance moves).world.Pauses i a wakeAt) (later : List Move) :
    (run chance (moves ++ later)).world.Pauses i a wakeAt := by
  induction later using List.reverseRecOn with
  | nil => rwa [List.append_nil]
  | append_singleton later m ih =>
    have hprecedes := run_precedes chance (moves ++ later) [m]
    rw [← List.append_assoc]
    rw [run_concat] at hprecedes ⊢
    exact ih.perform (run_isSound chance _) hprecedes

/-- A provider that has failed is left alone.  If the call of an attempt fails while its provider stays on
the roster, then, however the run goes on, until the pause is over the provider is engaged and no attempt
calls it but such as were cancelled and will not go on, unless the attempt whose call failed was cancelled
itself. -/
theorem failing_provider_is_left_alone (chance : Chance) {moves : List Move} {f : Speculative}
    {a : Attempt} (hf : (run chance moves).world.speculative[i]? = some f) (ha : a ∈ f.attempts)
    (hfails : a.isFailing (run chance moves).world.scene = true) (later : List Move)
    (hstays : StaysListed chance (moves ++ .step (.attempt i a.serial) :: later) i a.provider) :
    let w := (run chance (moves ++ .step (.attempt i a.serial) :: later)).world
    w.scene.isCancelled a.token = true ∨
      (run chance moves).world.scene.now + f.settings.retryDelay.toNat ≤ w.scene.now ∨
      ∃ g, w.speculative[i]? = some g ∧
        (∃ o ∈ g.states, o.provider = a.provider ∧ o.isEngaged = true) ∧
        ∀ b ∈ g.attempts, b.provider = a.provider → ∀ call, b.point = .calling call →
          w.scene.isCancelled b.token = true := by
  have hsplit : moves ++ .step (.attempt i a.serial) :: later =
      moves ++ [.step (.attempt i a.serial)] ++ later := by simp
  rw [hsplit] at hstays ⊢
  obtain ⟨r, wakeAt, hstep, hlong, hresting⟩ := Speculative.stepAttempt_of_isFailing i ha hfails
  have hacts := World.attempt_acts chance (run_isSound chance moves) hf ha hstep
  rw [← run_concat] at hacts
  have hpauses := run_pauses (.inr (.inr ⟨r.1, hacts, hresting⟩)) later
  have htells := run_tellsApart chance _ hstays
  have hsound := run_isSound chance (moves ++ [.step (.attempt i a.serial)] ++ later)
  generalize (run chance (moves ++ [.step (.attempt i a.serial)] ++ later)).world = w at *
  intro w'
  rcases hpauses with hcancelled | hover | ⟨g, hg, hrests⟩
  · exact .inl hcancelled
  · exact .inr (.inl (Nat.le_trans hlong hover))
  rcases Bool.eq_false_or_eq_true (w.scene.isCancelled a.token) with hcancelled | hstill
  · exact .inl hcancelled
  -- The attempt that pauses is the one that is awaited, so no other one is.
  have hgsound := hsound.speculative g (List.mem_of_getElem? hg)
  have hapart := (htells g hg).1
  obtain ⟨o, ho, hprovider, hphase⟩ := hapart.awaited _ hrests rfl hstill
  refine .inr (.inr ⟨g, hg, ⟨o, ho, hprovider, ?_⟩, fun b hb hbp call hcalls => ?_⟩)
  · simp [Obtainment.isEngaged, Obtainment.isIdle, hphase]
  · rcases Bool.eq_false_or_eq_true (w.scene.isCancelled b.token) with hcancelled | hbwanted
    · exact hcancelled
    · have hsame := hapart.eq_of_not_isCancelled hgsound.ids hgsound.serials hrests rfl hstill hb hbp hbwanted
      rw [← hsame] at hcalls
      exact absurd hcalls (by simp [Attempt.resting])

/-! ## A provider that fails -/

/-- A request comes, and the only provider of a fulfiller is asked for a core; it will fail. -/
def failingRun : List Move :=
  [Move.found, .enlist "P" "p" (.scripted [{ course := .fail ["no core"] }] { free := 0 }), .add 0 0,
    .speculative 0 0 {}, .begin (.create 0 .preferRemote 1 [] none false)] ++
  List.replicate 5 (Move.step (.speculative 0)) ++ [Move.step (.errand 1), .step (.errand 1)] ++
  List.replicate 5 (Move.step (.speculative 0))

/-- A second request comes a little later. -/
def risingDemand : List Move :=
  [Move.advance 10, .begin (.create 0 .preferRemote 1 [] none false), .step (.errand 6), .step (.errand 6)] ++
  List.replicate 5 (Move.step (.speculative 0))

/-- The provider fails, and a little later its fulfiller has not asked it again, though two requests wait. -/
theorem failing_provider_is_left_alone_risingDemand :
    let w := (run .plain (failingRun ++ .step (.attempt 0 4) :: risingDemand)).world
    StaysListed .plain (failingRun ++ .step (.attempt 0 4) :: risingDemand) 0 ⟨0, "p"⟩ ∧
      ∃ g, w.speculative[0]? = some g ∧
        (∃ o ∈ g.states, o.provider = ⟨0, "p"⟩ ∧ o.isEngaged = true) ∧
        ∀ b ∈ g.attempts, b.provider = ⟨0, "p"⟩ → ∀ call, b.point = .calling call →
          w.scene.isCancelled b.token = true := by
  have hthere : (run .plain failingRun).world.speculative[0]?.any (fun f =>
      f.settings.retryDelay.toNat == 1000 && f.attempts.any fun a =>
        a.serial == 4 && a.provider == ⟨0, "p"⟩ && a.token == ⟨3, [0]⟩ &&
          a.isFailing (run .plain failingRun).world.scene) = true := by decide +kernel
  obtain ⟨f, hf, hfacts⟩ := (Option.any_eq_true _ _).mp hthere
  obtain ⟨hdelay, hattempt⟩ := Bool.and_eq_true_iff.mp hfacts
  obtain ⟨a, ha, hthis⟩ := List.any_eq_true.mp hattempt
  simp only [Bool.and_eq_true, beq_iff_eq] at hdelay hthis
  obtain ⟨⟨⟨hserial, hprovider⟩, htoken⟩, hfails⟩ := hthis
  have hstays : StaysListed .plain (failingRun ++ .step (.attempt 0 4) :: risingDemand) 0 ⟨0, "p"⟩ := by
    unfold StaysListed
    decide +kernel
  have halone := failing_provider_is_left_alone .plain hf ha hfails risingDemand
    (by rw [hserial, hprovider]; exact hstays)
  rw [hserial, hprovider, htoken, hdelay] at halone
  intro w
  refine ⟨hstays, (halone.resolve_left ?_).resolve_left ?_⟩
  · decide +kernel
  · decide +kernel

/-- The request is given up, the attempt is cancelled for want of demand, and another request comes. -/
def returningDemand : List Move :=
  [Move.step (.attempt 0 4), .giveUp (.request 0 2), .step (.errand 6)] ++
  List.replicate 4 (Move.step (.speculative 0)) ++
  [Move.step (.attempt 0 4), .step (.attempt 0 4), .begin (.create 0 .preferRemote 1 [] none false),
    .step (.errand 7), .step (.errand 7)] ++
  List.replicate 9 (Move.step (.speculative 0)) ++ [Move.step (.attempt 0 10)]

/-- What concerns requests to providers, newest first. -/
def World.calls (w : World) : List Event := w.scene.journal.filter (·.isAboutCall)

/-- The provider stays on the roster and has failed, and it is asked again before any time has passed,
though the fulfiller is to pause for a second. -/
theorem failing_provider_is_asked_again_at_once :
    StaysListed .plain (failingRun ++ returningDemand) 0 ⟨0, "p"⟩ ∧
      (run .plain (failingRun ++ returningDemand)).world.speculative.map
        (·.settings.retryDelay.toNat) = [1000] ∧
      (run .plain (failingRun ++ returningDemand)).world.calls =
        [.called "P", .failed "P", .called "P"] ∧
      (run .plain (failingRun ++ returningDemand)).world.scene.now = 0 := by
  unfold StaysListed
  decide +kernel

end CoreBroker
