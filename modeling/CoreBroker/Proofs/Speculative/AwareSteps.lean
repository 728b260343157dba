import CoreBroker.Proofs.Speculative.Awareness
import CoreBroker.Proofs.Speculative.LoopSteps
set_option autoImplicit false

/-!
# What a fulfiller knows, step by step

Every step of the loop and of the attempts leaves the fulfiller aware.  While a pass is under way no
attempt can report its outcome, and whatever an attempt changes after a pass it makes known by its exit.
-/

namespace CoreBroker.Speculative

variable {chance : Chance} {f f' : Speculative} {s s' : Scene} {st : Stage} {a : Attempt} {me : Nat}

/-! ## Attempts -/

/-- What a step of an attempt changes of the fulfiller whose index is `me`. -/
inductive Attempted (me : Nat) (f : Speculative) : Speculative → Prop
  | goesOn {attempts : List Attempt} {guard : Guard Task} (hholder : guard.holder = f.guard.holder) :
      Attempted me f { f with attempts, guard }
  | exits {attempts : List Attempt} {exits : List Exit} (hexits : exits ≠ []) :
      Attempted me f { f with attempts, exits }
  /-- The core that it brings is refused, under the guard, which the loop does not have then. -/
  | refused {attempts : List Attempt} {guard : Guard Task}
      (hfree : f.guard.holder ≠ some (.speculative me)) : Attempted me f { f with attempts, guard }
  /-- The outcome is reported under the guard, which the loop does not have then. -/
  | settles {states : States Core} {attempts : List Attempt} {exits : List Exit} {guard : Guard Task}
      (hproviders : states.providers = f.states.providers) (hexits : exits ≠ [])
      (hfree : f.guard.holder ≠ some (.speculative me)) :
      Attempted me f { f with states, attempts, exits, guard }

theorem settle_attempted (hids : f.states.ids.Nodup) {guard : Guard Task}
    (hfree : f.guard.holder ≠ some (.speculative me)) (core : Option Core) :
    f.Attempted me (({ f with guard } : Speculative).settle a core s).1 ∧
      (({ f with guard } : Speculative).settle a core s).2.stage = s.stage := by
  obtain ⟨hproviders, -⟩ := applyOutcome_counts hids a core
  have hrefused := fun late => @applyOutcome_of_refused a f.states core late
  unfold settle
  simp only
  generalize applyOutcome f.states a core = outcome at *
  obtain ⟨states, stale⟩ := outcome
  cases stale with
  | none =>
    refine ⟨.settles hproviders (by simp) hfree, ?_⟩
    exact (s.aside_report _ _ _).stage
  | some late =>
    obtain rfl : states = f.states := hrefused late rfl
    refine ⟨.refused hfree, ?_⟩
    have haside := (s.aside_report .debug "late core disposed" [providerField a.provider.id,
      ("attempt", .ofText (toString a.number))]).trans (Scene.aside_trace _ f.sink traceSource
        ("late core from " ++ a.provider.id ++ " disposed" : String))
    exact (Scene.performs_disposeCore _ late).stage.eq_of_remarked.trans haside.stage

theorem attemptReceive_attempted {result : CallResult} {s₁ : Scene}
    (htells : (CallLook.ended result s₁).Tells s) :
    f.Attempted me (f.attemptReceive a result s₁).1 ∧
      (f.attemptReceive a result s₁).2.stage = s.stage := by
  cases result with
  | core core => exact ⟨.goesOn rfl, (Scene.Performs.stage htells).eq_of_minted⟩
  | failed chain =>
    refine ⟨.goesOn rfl, ?_⟩
    exact ((Scene.Aside.trans htells (Scene.aside_report _ _ _ _)).trans
      (Scene.aside_trace _ _ _ _)).stage
  | panicked => exact ⟨.exits (by simp), Scene.Aside.stage htells⟩

/-- A step of an attempt changes nothing on the stage. -/
theorem stepAttempt_attempted (hids : f.states.ids.Nodup) {r : Speculative × Scene}
    (hstep : f.stepAttempt me a s = some r) : f.Attempted me r.1 ∧ r.2.stage = s.stage := by
  cases stepAttempt_attemptStep hstep with
  | withdraws _ _ => exact ⟨.goesOn rfl, (s.aside_dropCall _).stage⟩
  | calls _ haside => exact ⟨.goesOn rfl, haside.stage⟩
  | receives _ htells => exact attemptReceive_attempted htells
  | resumes _ => exact ⟨.goesOn rfl, rfl⟩
  | joins _ hholder => exact ⟨.goesOn hholder, rfl⟩
  | @settles core _ _ hfree => exact settle_attempted hids hfree core
  | exits _ => exact ⟨.exits (by simp), rfl⟩

theorem Attempted.aware (h : f.Attempted me f') (haware : f.IsAware me st) : f'.IsAware me st := by
  cases h with
  | goesOn hholder =>
    exact ⟨haware.served, haware.known, fun hin => hholder.trans (haware.guarded hin), haware.tracks,
      haware.knows.of_same rfl id⟩
  | exits hexits =>
    exact ⟨haware.served, haware.known, haware.guarded, haware.tracks,
      haware.knows.of_same rfl fun hnone => absurd hnone hexits⟩
  | refused hfree =>
    exact ⟨haware.served, haware.known, fun hin => absurd (haware.guarded hin) hfree, haware.tracks,
      haware.knows.of_same rfl id⟩
  | @settles states attempts exits guard hproviders hexits hfree =>
    have hpass : f.point.isInPass = false :=
      Bool.eq_false_iff.mpr fun hin => hfree (haware.guarded hin)
    refine ⟨haware.served, fun o ho => ?_, fun hin => absurd (hpass.symm.trans hin) Bool.false_ne_true,
      fun hpoint members hcurrent => ?_, ?_⟩
    · have hmem : o.provider ∈ states.providers := List.mem_map_of_mem ho
      rw [hproviders] at hmem
      obtain ⟨q, hq, hqo⟩ := List.mem_map.mp hmem
      exact hqo ▸ haware.known q hq
    · have hperm := haware.tracks hpoint members hcurrent
      rw [← hproviders] at hperm
      exact hperm
    · unfold Knows
      split
      · rename_i hprobing
        rw [show f.point = _ from hprobing] at hpass
        exact absurd hpass (by simp [SpeculativePoint.isInPass])
      · rename_i hmatching
        rw [show f.point = _ from hmatching] at hpass
        exact absurd hpass (by simp [SpeculativePoint.isInPass])
      · exact fun hnone => absurd hnone hexits
      · exact fun hnone => absurd hnone hexits
      · trivial

/-! ## The loop -/

/-- The loop goes on to a point that is neither in a pass nor the wait for a change, and tracks the same
providers. -/
structure LeavesPass (f f' : Speculative) : Prop where
  pass : f'.point.isInPass = false
  after : f'.point.isAfterPass = false
  subscription : f'.subscription = f.subscription
  providers : f'.states.providers = f.states.providers

theorem turn_leavesPass (f : Speculative) (s : Scene) : f.LeavesPass (f.turn s).1 := by
  unfold turn
  split
  · exact ⟨rfl, rfl, rfl, rfl⟩
  · exact ⟨rfl, rfl, rfl, rfl⟩

theorem aside_turn (f : Speculative) (s : Scene) : s.Aside (f.turn s).2 := by
  unfold turn
  split
  · exact .refl s
  · exact .refl s

theorem noticeExit_leavesPass (f : Speculative) (exit : Exit) (s : Scene) :
    f.LeavesPass (f.noticeExit exit s).1 ∧ s.Aside (f.noticeExit exit s).2 := by
  unfold noticeExit
  simp only
  split
  · have haside : ∀ id : String, s.Aside (f.trace (s.report .error "Obtainment attempt panicked"
        [providerField id]) ("attempt for provider " ++ id ++ " panicked" : String)) :=
      fun id => (s.aside_report _ _ _).trans (Scene.aside_trace _ _ _ _)
    split
    · exact ⟨⟨rfl, rfl, rfl, rfl⟩, haside _⟩
    · exact ⟨⟨rfl, rfl, rfl, rfl⟩, haside _⟩
  · have hturned := turn_leavesPass { f with owners := f.owners.filter (·.serial != exit.serial) } s
    exact ⟨⟨hturned.pass, hturned.after, hturned.subscription, hturned.providers⟩, aside_turn _ s⟩

theorem releaseAll_leavesPass (f : Speculative) (s : Scene) : f.LeavesPass (f.releaseAll s).1 := by
  rw [releaseAll_eq]
  refine ⟨SpeculativePoint.of_inTurn (P := (·.isInPass = false)) (fun _ => rfl) rfl _,
    SpeculativePoint.of_inTurn (P := (·.isAfterPass = false)) (fun _ => rfl) rfl _, rfl, ?_⟩
  show (f.states.map Obtainment.release).map (·.provider) = f.states.map (·.provider)
  rw [List.map_map]
  rfl

/-- Whoever departs leaves nothing behind to be known, as long as the receivers are kept. -/
theorem IsAware.leavesPass (haware : f.IsAware me s.stage) (hended : f.point ≠ .ended)
    (hleaves : f.LeavesPass f') {events : List Event}
    (hacts : Scene.ActSequence (fun _ act => ¬ act.Leaves f.subscription) s events s') :
    f'.IsAware me s'.stage := by
  refine .elsewhere hleaves.pass hleaves.after (fun _ => ?_) fun o ho => ?_
  · exact hleaves.subscription ▸ hacts.isServed (fun _ _ h => h) (haware.served hended)
  · have hmem : o.provider ∈ f'.states.providers := List.mem_map_of_mem ho
    rw [hleaves.providers] at hmem
    obtain ⟨q, hq, hqo⟩ := List.mem_map.mp hmem
    exact hacts.mem_providers (hqo ▸ haware.known q hq)

theorem disposeInTurn_stage (f : Speculative) (s : Scene) (wait : List Core → SpeculativePoint)
    (next : SpeculativePoint) (cores : List Core) :
    (f.disposeInTurn s wait next cores).2.stage = s.stage := by
  cases cores with
  | nil => rfl
  | cons core others => exact (s.performs_disposeCore core).stage.eq_of_remarked

/-- Disposing of what a pass has gathered changes nothing of what the fulfiller knows. -/
theorem IsAware.discards {others : List Core} (haware : f.IsAware me s.stage)
    (hpoint : f.point = .discarding others) :
    (f.disposeInTurn s .discarding .idle others).1.IsAware me
      (f.disposeInTurn s .discarding .idle others).2.stage := by
  have hafter : f.point.isAfterPass = true := by
    rw [hpoint]
    rfl
  have hknows := haware.knows
  unfold Knows at hknows
  rw [hpoint] at hknows
  rw [disposeInTurn_stage, disposeInTurn_eq]
  refine ⟨fun _ => haware.served (by simp [hpoint]), haware.known, fun hin => absurd hin ?_,
    fun _ => haware.tracks (.inr hafter), ?_⟩
  · cases others <;> exact Bool.false_ne_true
  · cases others <;> exact fun hnone waiting hcalm =>
      ⟨(hknows hnone waiting hcalm).1, (hknows hnone waiting hcalm).2⟩

/-- Every step of the loop leaves the fulfiller aware. -/
theorem step_aware (hstage : s.stage.IsSound) (hids : f.states.ids.Nodup)
    (haware : f.IsAware me s.stage) {r : Speculative × Scene} (hstep : f.step chance me s = some r) :
    r.1.IsAware me r.2.stage := by
  have hdrained : Scene.ActSequence (fun _ act => ¬ act.Leaves f.subscription) s [] (f.drain s) :=
    drain_acts (fun _ h => h.elim id id) (fun _ h => h.elim id id) s
  have hgoesOn : ∀ {s₁ : Scene}, s.Aside s₁ → f.IsAware me s₁.stage ∧ s₁.stage.IsSound :=
    fun haside => by
      rw [haside.stage]
      exact ⟨haware, hstage⟩
  have hthere : ∀ {point : SpeculativePoint}, f.point = point → point ≠ .ended → f.point ≠ .ended :=
    fun hpoint hnot => hpoint ▸ hnot
  cases step_loopStep hstep with
  | joins hholder => exact Attempted.aware (.goesOn hholder) haware
  | waits haside => exact (hgoesOn haside).1
  | begins hpoint =>
    exact haware.leavesPass (hthere hpoint SpeculativePoint.noConfusion) (turn_leavesPass f _)
      (.aside .refl ((s.aside_report _ _ _).trans (aside_turn f _)))
  | @reconciles guard hpoint hholder =>
    have hguarded : IsAware me s.stage { f with guard } :=
      .elsewhere (by rw [hpoint]; rfl) (by rw [hpoint]; rfl)
        haware.served haware.known
    exact reconcile_aware hstage hids hguarded (hthere hpoint SpeculativePoint.noConfusion) hholder
  | counts hpoint haside hboard =>
    exact count_aware chance hids (hgoesOn haside).1 (by rw [hpoint]; rfl) hboard _
  | judges hpoint haside isAlive => exact judge_aware hids (hgoesOn haside).1 hpoint isAlive
  | assigns hpoint haside hboard =>
    obtain ⟨haware₁, hstage₁⟩ := hgoesOn haside
    exact finishPass_aware chance hstage₁ hids haware₁ hpoint hboard
  | @discards others hpoint =>
    exact haware.discards hpoint
  | stops hpoint _ =>
    exact haware.leavesPass (hthere hpoint SpeculativePoint.noConfusion) ⟨rfl, rfl, rfl, rfl⟩ .refl
  | @notices exit exits hpoint _ =>
    obtain ⟨hleaves, haside⟩ := noticeExit_leavesPass { f with exits } exit (f.drain s)
    exact haware.leavesPass (hthere hpoint SpeculativePoint.noConfusion)
      ⟨hleaves.pass, hleaves.after, hleaves.subscription, hleaves.providers⟩ (hdrained.aside haside)
  | wakes hpoint =>
    exact haware.leavesPass (hthere hpoint SpeculativePoint.noConfusion) (turn_leavesPass f _)
      (hdrained.aside (aside_turn f _))
  | @records guard owner hpoint =>
    obtain ⟨states, hproviders, -, heq⟩ := recordPanic_eq (f := { f with guard }) hids owner s
    rw [heq]
    exact haware.leavesPass (hthere hpoint SpeculativePoint.noConfusion)
      ⟨rfl, rfl, rfl, hproviders⟩ .refl
  | resumes hpoint =>
    exact haware.leavesPass (hthere hpoint SpeculativePoint.noConfusion) (turn_leavesPass f _)
      (.aside .refl (aside_turn f _))
  | @releases guard hpoint =>
    have hleaves := releaseAll_leavesPass { f with guard } s
    have hfired := Scene.aside_foldl Scene.aside_fire (f.states.filterMap (·.inFlight?)) s
    have hdisposed : Scene.ActSequence (fun _ act => ¬ act.Leaves f.subscription)
        ((f.states.filterMap (·.inFlight?)).foldl Scene.fire s) _ _ :=
      Scene.acts_disposeCores (fun _ _ h => h.elim id id)
        ((f.states.filterMap (·.heldCore?)).take 1) _
    rw [releaseAll_eq] at hleaves ⊢
    exact haware.leavesPass (hthere hpoint SpeculativePoint.noConfusion)
      ⟨hleaves.pass, hleaves.after, hleaves.subscription, hleaves.providers⟩
      ((Scene.ActSequence.aside .refl hfired).trans hdisposed)
  | @dissolves others hpoint =>
    rw [disposeInTurn_eq]
    exact haware.leavesPass (hthere hpoint SpeculativePoint.noConfusion)
      ⟨SpeculativePoint.of_inTurn (P := (·.isInPass = false)) (fun _ => rfl) rfl _,
        SpeculativePoint.of_inTurn (P := (·.isAfterPass = false)) (fun _ => rfl) rfl _, rfl, rfl⟩
      (Scene.acts_disposeCores (fun _ _ h => h.elim id id) (others.take 1) s)
  | @noticesLate exit exits hpoint _ =>
    have haside := aside_noticeLateExit { f with exits } exit s
    have hjoining : (({ f with exits } : Speculative).noticeLateExit exit s).1.point = .joining := hpoint
    exact haware.leavesPass (hthere hpoint SpeculativePoint.noConfusion)
      ⟨by rw [hjoining]; rfl, by rw [hjoining]; rfl, rfl, rfl⟩ (.aside .refl haside)
  | finishes hpoint _ =>
    refine .elsewhere rfl rfl (fun hnot => absurd rfl hnot) fun o ho => ?_
    have hacts : Scene.ActSequence (May f.subscription) s [] (f.finish s).2 := f.finish_acts s
    exact hacts.mem_providers (haware.known o ho)

end CoreBroker.Speculative
