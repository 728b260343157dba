import CoreBroker.Proofs.Runs.Moves
import CoreBroker.Proofs.Speculative.Outcomes
set_option autoImplicit false

/-!
# Which outcomes are taken in

An outcome is taken in where its very provider object is asked under its very number, and is refused
everywhere else.  The numbers of a provider begin anew whenever it is tracked anew, so they do not tell an
attempt from one that was started before the provider left the roster and came back.
-/

namespace CoreBroker

/-- The call of an attempt is in flight: the provider has been asked and has not answered. -/
def Attempt.isAsking (a : Attempt) : Bool :=
  match a.point with
  | .calling call => call.point != .fresh
  | _ => false

namespace Speculative

/-- An attempt reports.  Either its provider is asked under its number, and the core, if there is one, is
held from now on; or nothing changes, and the core is disposed of. -/
theorem settle_cases (f : Speculative) (a : Attempt) (core : Option Core) (s : Scene) :
    (∃ o, f.states.own? a.provider = some o ∧ o.isCurrent a.number = true ∧
        (f.settle a core s).1.states =
          f.states.modify a.provider.id (fun _ => { o with phase := phaseAfter core }) ∧
        (f.settle a core s).2.story = s.story) ∨
      ((∀ o, f.states.own? a.provider = some o → o.isCurrent a.number = false) ∧
        (f.settle a core s).1.states = f.states ∧
        (f.settle a core s).2.story = core.toList.map .disposed ++ s.story) := by
  have hreported := s.aside_report .trace "obtainment attempt finished" [providerField a.provider.id,
    ("attempt", .ofText (toString a.number))]
  rcases current_or_stale f.states a with ⟨o, hown, hcurrent⟩ | hstale
  · refine .inl ⟨o, hown, hcurrent, ?_⟩
    unfold settle
    rw [applyOutcome_of_current hown hcurrent]
    exact ⟨rfl, hreported.story⟩
  · refine .inr ⟨hstale, ?_⟩
    unfold settle
    rw [applyOutcome_of_stale hstale]
    cases core with
    | none => exact ⟨rfl, hreported.story⟩
    | some late =>
      have haside := (s.aside_report .debug "late core disposed" [providerField a.provider.id,
        ("attempt", .ofText (toString a.number))]).trans (Scene.aside_trace _ f.sink traceSource
          ("late core from " ++ a.provider.id ++ " disposed" : String))
      refine ⟨rfl, (Scene.performs_disposeCore _ late).story.trans ?_⟩
      exact congrArg (Event.disposed late :: ·) haside.story

end Speculative

/-! ## A provider that comes back -/

/-- While an attempt asks a provider, the provider leaves the roster and comes back, and another attempt
asks it. -/
def reregisteredRun : List Move :=
  [Move.found, .enlist "P" "p" (.scripted [{}, {}, {}] { free := 0 }), .add 0 0,
    .begin (.create 0 .preferRemote 1 [] none false), .step (.errand 0), .step (.errand 0),
    .speculative 0 0 { slack := 1 }] ++ List.replicate 5 (Move.step (.speculative 0)) ++
  [Move.step (.attempt 0 4), .remove 0 "p"] ++ List.replicate 4 (Move.step (.speculative 0)) ++
  [Move.add 0 0] ++ List.replicate 5 (Move.step (.speculative 0)) ++ [Move.step (.attempt 0 7)]

/-- The first attempt is told that it was cancelled, and reports. -/
def lateReport : List Move := [.step (.attempt 0 4), .step (.attempt 0 4)]

/-- The attempts under way with their tokens, and the tokens of the attempts whose outcomes are awaited. -/
def World.awaited (w : World) : List (List (Nat × Nat) × List Nat) :=
  w.speculative.map fun f => (f.attempts.map fun a => (a.serial, a.token.number),
    f.states.filterMap fun o => o.inFlight?.map (·.number))

/-- The attempt that was cancelled ends the obtainment of the later one, which goes on asking. -/
theorem late_report_ends_later_attempt :
    (run .plain reregisteredRun).world.awaited = [([(4, 3), (7, 6)], [6])] ∧
      (run .plain (reregisteredRun ++ lateReport)).world.awaited = [([(7, 6)], [])] := by
  decide +kernel

/-- Which provider each attempt under way asks, whether its call is in flight, and whether it was cancelled. -/
def World.asking (w : World) : List (List (ProviderRef × Bool × Bool)) :=
  w.speculative.map fun f => f.attempts.map fun a =>
    (a.provider, a.isAsking, w.scene.isCancelled a.token)

/-- So the provider is asked once more, while the call of the later attempt is in flight. -/
theorem calls_overlap_after_late_report :
    (run .plain (reregisteredRun ++ lateReport ++ List.replicate 5 (.step (.speculative 0)) ++
      [.step (.attempt 0 10)])).world.asking =
        [[(⟨0, "p"⟩, true, false), (⟨0, "p"⟩, true, false)]] := by
  decide +kernel

end CoreBroker
