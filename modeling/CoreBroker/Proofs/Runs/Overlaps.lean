import CoreBroker.Proofs.Runs.Onsets
import CoreBroker.Proofs.Runs.Oversight
import CoreBroker.Proofs.Speculative.Staleness
import CoreBroker.Proofs.Speculative.Tracking
set_option autoImplicit false

/-!
# Which calls can overlap

A fulfiller wants at most one call to a provider at a time: while one is in flight, others can only be in
flight that were cancelled and end when their attempts take their next step.  This is so in every run,
however often the provider leaves the roster and comes back, as long as it does not come back while the
outcome of an earlier attempt on it may still come in.
-/

namespace CoreBroker

variable {chance : Chance} {i : Nat} {p : ProviderRef}

/-- The fulfiller `i` tracks the provider. -/
def World.tracks (w : World) (i : Nat) (p : ProviderRef) : Bool :=
  w.speculative[i]?.any fun f => decide (p ∈ f.states.providers)

/-- The outcome of an attempt on the provider may still reach the fulfiller `i`. -/
def World.expects (w : World) (i : Nat) (p : ProviderRef) : Bool :=
  w.speculative[i]?.any fun f => f.known.any (·.provider == p)

/-- Whenever the fulfiller `i` comes to track the provider, or to track it again, all attempts on it are over
and recorded. -/
def TracksAfresh (chance : Chance) (moves : List Move) (i : Nat) (p : ProviderRef) : Prop :=
  AtEachMove chance (fun w w' =>
    w.tracks i p = false → w'.tracks i p = true → w.expects i p = false) moves

namespace World

/-- The fulfiller `i`, once it is there, keeps the attempts on the provider apart. -/
def KeepsApart (w : World) (i : Nat) (p : ProviderRef) : Prop :=
  ∀ f, w.speculative[i]? = some f → f.KeepsApart p w.scene

/-- Whatever move is made, unless it lets the provider come back too early. -/
theorem KeepsApart.perform {w : World} {m : Move} (hw : w.IsSound) (h : w.KeepsApart i p)
    (hwatches : w.Watches [] i) (hprecedes : w.scene.Precedes (w.perform chance m).scene)
    (hafresh : w.tracks i p = false → (w.perform chance m).tracks i p = true → w.expects i p = false) :
    (w.perform chance m).KeepsApart i p := by
  intro g hg
  cases speculativeMove chance hw m i with
  | @acts f f' _ hf hf' hstep _ =>
    obtain rfl := Option.some.inj (hg.symm.trans hf')
    have hsound := hw.speculative f (List.mem_of_getElem? hf)
    refine Speculative.step_keepsApart hsound (h f hf) (hwatches.watches f hf).oversees hstep hprecedes ?_
    intro huntracked htracked x hx
    have hnone := hafresh (by simp [tracks, hf, huntracked]) (by simp [tracks, hf', htracked])
    simp only [expects, hf, Option.any_some, List.any_eq_false, beq_iff_eq] at hnone
    exact hnone x hx
  | @tries f f' a _ hf ha hf' hstep _ =>
    obtain rfl := Option.some.inj (hg.symm.trans hf')
    have hsound := hw.speculative f (List.mem_of_getElem? hf)
    exact Speculative.stepAttempt_keepsApart hsound (h f hf) ha hstep hprecedes
  | stays _ hsame =>
    obtain ⟨f, hf, hbare⟩ := exists_of_map_eq hsame hg
    rw [Speculative.eq_of_bare hbare]
    exact (h f hf).later hprecedes g.sink g.guard
  | starts _ _ hf hstates hattempts _ _ =>
    obtain rfl := Option.some.inj (hg.symm.trans hf)
    refine ⟨fun htracked => ?_, fun _ a ha => ?_⟩
    · simp [States.providers, hstates] at htracked
    · simp [hattempts] at ha

end World

/-- In every run in which the provider does not come back too early. -/
theorem run_keepsApart (chance : Chance) (moves : List Move) (hafresh : TracksAfresh chance moves i p) :
    (run chance moves).world.KeepsApart i p := by
  induction moves using List.reverseRecOn with
  | nil => exact fun f hf => absurd hf (by simp [run])
  | append_singleton moves m ih =>
    have hprecedes := run_precedes chance moves [m]
    rw [run_concat] at hprecedes ⊢
    exact (ih hafresh.of_append).perform (run_isSound chance moves) (run_watches chance moves i) hprecedes
      hafresh.last

namespace Speculative

/-- An attempt that was cancelled lets go of its call. -/
theorem stepAttempt_of_isCancelled {f : Speculative} {a : Attempt} {s : Scene} (me : Nat)
    (hasks : a.isAsking = true) (hcancelled : s.isCancelled a.token = true) :
    ∃ r, f.stepAttempt me a s = some r ∧ ∀ b ∈ r.1.attempts, b.serial = a.serial → b.isAsking = false := by
  unfold Attempt.isAsking at hasks
  split at hasks
  · rename_i call hpoint
    refine ⟨(f.attemptGoTo a (.settling none), s.dropCall call), ?_, fun b' hb' hserial => ?_⟩
    · simp only [stepAttempt, hpoint, hcancelled, if_true]
    · obtain ⟨b, hb, rfl⟩ := List.mem_map.mp hb'
      split
      · rfl
      · rename_i hother
        rw [if_neg hother] at hserial
        exact absurd (beq_iff_eq.mpr hserial) hother
  · exact absurd hasks Bool.false_ne_true

end Speculative

/-- The calls to a provider do not overlap as far as they are wanted.  If the provider is tracked afresh
whenever it is, then at every moment of the run at most one of the calls that the fulfiller has in flight on
it is of an attempt that was not cancelled.  A call of an attempt that was cancelled is not in flight any more
once the attempt has taken its next step. -/
theorem wanted_calls_do_not_overlap (chance : Chance) {moves : List Move}
    (hafresh : TracksAfresh chance moves i p) {f : Speculative}
    (hf : (run chance moves).world.speculative[i]? = some f) :
    (∀ a ∈ f.attempts, ∀ b ∈ f.attempts, a.provider = p → b.provider = p →
      a.isAsking = true → b.isAsking = true →
      (run chance moves).world.scene.isCancelled a.token = false →
      (run chance moves).world.scene.isCancelled b.token = false → a = b) ∧
    ∀ a ∈ f.attempts, a.isAsking = true → (run chance moves).world.scene.isCancelled a.token = true →
      ∃ g, (run chance (moves ++ [.step (.attempt i a.serial)])).world.speculative[i]? = some g ∧
        ∀ b ∈ g.attempts, b.serial = a.serial → b.isAsking = false := by
  have hsound := run_isSound chance moves
  have hfsound := hsound.speculative f (List.mem_of_getElem? hf)
  refine ⟨fun a ha b hb hap hbp _ _ hawanted hbwanted => ?_, fun a ha hasks hcancelled => ?_⟩
  · have hapart := run_keepsApart chance moves hafresh f hf
    exact hapart.eq_of_not_isCancelled hfsound ha hap hawanted hb hbp hbwanted
  · obtain ⟨r, hstep, hlets⟩ := Speculative.stepAttempt_of_isCancelled i hasks hcancelled
    have hacts := World.attempt_acts chance hsound hf ha hstep
    rw [← run_concat] at hacts
    exact ⟨r.1, hacts, hlets⟩

/-- A provider is asked and the request is given up; before the attempt is told that it was cancelled,
another request comes and the provider is asked again. -/
def overtakenRun : List Move :=
  [Move.found, .enlist "P" "p" (.scripted [{}, {}] { free := 0 }), .add 0 0, .speculative 0 0 {},
    .begin (.create 0 .preferRemote 1 [] none false)] ++ List.replicate 5 (Move.step (.speculative 0)) ++
  [Move.step (.errand 1), .step (.errand 1)] ++ List.replicate 5 (Move.step (.speculative 0)) ++
  [Move.step (.attempt 0 4), .giveUp (.request 0 2), .step (.errand 6)] ++
  List.replicate 4 (Move.step (.speculative 0)) ++
  [Move.begin (.create 0 .preferRemote 1 [] none false), .step (.errand 7), .step (.errand 7)] ++
  List.replicate 9 (Move.step (.speculative 0)) ++ [Move.step (.attempt 0 10)]

/-- Both calls are in flight then, but only one is wanted, and the other one ends at the next step of its
attempt. -/
theorem wanted_calls_do_not_overlap_overtakenRun :
    let w := (run .plain overtakenRun).world
    TracksAfresh .plain overtakenRun 0 ⟨0, "p"⟩ ∧
      w.asking = [[(⟨0, "p"⟩, true, true), (⟨0, "p"⟩, true, false)]] ∧
      ∃ f g, w.speculative[0]? = some f ∧
        (∀ a ∈ f.attempts, ∀ b ∈ f.attempts, a.provider = ⟨0, "p"⟩ → b.provider = ⟨0, "p"⟩ →
          a.isAsking = true → b.isAsking = true → w.scene.isCancelled a.token = false →
          w.scene.isCancelled b.token = false → a = b) ∧
        (run .plain (overtakenRun ++ [.step (.attempt 0 4)])).world.speculative[0]? = some g ∧
        ∀ b ∈ g.attempts, b.serial = 4 → b.isAsking = false := by
  intro w
  have hafresh : TracksAfresh .plain overtakenRun 0 ⟨0, "p"⟩ := by
    unfold TracksAfresh AtEachMove
    decide +kernel
  have hthere : w.speculative[0]?.any (fun f => f.attempts.any fun a =>
      a.serial == 4 && a.isAsking && w.scene.isCancelled a.token) = true := by decide +kernel
  obtain ⟨f, hf, hattempt⟩ := (Option.any_eq_true _ _).mp hthere
  obtain ⟨a, ha, hthis⟩ := List.any_eq_true.mp hattempt
  simp only [Bool.and_eq_true, beq_iff_eq] at hthis
  obtain ⟨⟨hserial, hasks⟩, hcancelled⟩ := hthis
  obtain ⟨hapart, hlets⟩ := wanted_calls_do_not_overlap .plain hafresh hf
  obtain ⟨g, hg, hover⟩ := hlets a ha hasks hcancelled
  rw [hserial] at hg hover
  exact ⟨hafresh, by decide +kernel, f, g, hf, hapart, hg, hover⟩

end CoreBroker
