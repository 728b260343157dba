import CoreBroker.Proofs.Speculative.LoopSteps
import CoreBroker.Proofs.Speculative.Rebalancing
set_option autoImplicit false

/-!
# Who assigns the cores of a speculative fulfiller

Cores are assigned at the end of a pass and nowhere else, only those that were found to work in that pass,
and only to requests that the constraint of the fulfiller admits.  All other steps of the loop at most
dispose of cores, and attempts assign none at all.
-/

namespace CoreBroker.Speculative

variable {chance : Chance} {f : Speculative} {s : Scene} {me : Nat}

/-- Anywhere but at the end of a pass the loop at most disposes of cores. -/
theorem step_quiet (hsound : f.IsSound s.nextSerial)
    (hpoint : ∀ ready discarded, f.point ≠ .matching ready discarded) {r : Speculative × Scene}
    (hstep : f.step chance me s = some r) :
    ∃ cores : List Core, r.2.story = cores.map .disposed ++ s.story := by
  cases step_loopStep hstep with
  | joins _ => exact ⟨[], rfl⟩
  | waits haside => exact ⟨[], haside.story⟩
  | begins hthis =>
    have haside := s.aside_report .debug "multi-source control loop started" []
    exact ⟨[], ((turn_accounts (hsound.mono haside.serial) (by rw [hthis]; rfl)).acts.story_eq).trans
      haside.story⟩
  | reconciles _ _ => exact ⟨[], (aside_reconcile _ s).story⟩
  | counts _ haside _ =>
    exact ⟨[], (haside.trans (count_holds chance hsound.ids _ _ _).aside).story⟩
  | judges hthis haside isAlive =>
    exact ⟨[], ((judge_accounts hthis (hsound.mono haside.serial) isAlive).acts.story_eq).trans
      haside.story⟩
  | assigns hthis _ _ => exact absurd hthis (hpoint _ _)
  | @discards others _ => exact ⟨others.take 1, disposeInTurn_story _ _ _ _ _⟩
  | stops _ _ => exact ⟨[], rfl⟩
  | @notices exit exits hthis _ =>
    have hdrained := drain_acts (may_looked f.subscription) (may_lookedAtRoster f.subscription) s
    have haccounts := noticeExit_accounts exit ((hsound.mono hdrained.serial_le).withExits exits)
      (by rw [hthis]; rfl)
    exact ⟨[], haccounts.acts.story_eq.trans hdrained.story_eq⟩
  | wakes hthis =>
    have hdrained := drain_acts (may_looked f.subscription) (may_lookedAtRoster f.subscription) s
    have haccounts := turn_accounts (hsound.mono hdrained.serial_le) (by rw [hthis]; rfl)
    exact ⟨[], haccounts.acts.story_eq.trans hdrained.story_eq⟩
  | records _ => exact ⟨[], rfl⟩
  | resumes hthis =>
    exact ⟨[], (turn_accounts hsound (by rw [hthis]; rfl)).acts.story_eq⟩
  | @releases guard hthis =>
    have haside := Scene.aside_foldl Scene.aside_fire (f.states.filterMap (·.inFlight?)) s
    refine ⟨(f.states.filterMap (·.heldCore?)).take 1, ?_⟩
    rw [← haside.story]
    exact disposeInTurn_story _ _ _ _ _
  | @dissolves others _ => exact ⟨others.take 1, disposeInTurn_story _ _ _ _ _⟩
  | noticesLate _ _ => exact ⟨[], (aside_noticeLateExit _ _ s).story⟩
  | finishes _ _ => exact ⟨[], (f.finish_acts s).story_eq⟩

/-- What a pass has put aside to be disposed of is among what it disposes of after its end. -/
theorem resize_discarded (chance : Chance) (hids : f.states.ids.Nodup) (me : Nat) (discarded : List Core)
    (matched : Matched) : discarded ⊆ (f.resize chance me discarded matched).2.2 := by
  refine List.Subset.trans
    (List.subset_append_left discarded (f.states.restoreCores matched.leftovers).2) ?_
  rcases resize_starts_or_givesUp chance hids me discarded matched with ⟨hsame, -⟩ | ⟨gone, hgivesUp⟩
  · rw [hsame]
    exact List.Subset.refl _
  · rw [hgivesUp.discarded]
    exact List.subset_append_left _ _

/-- What the end of a pass tells: cores are assigned, and then the loop begins to dispose of others in
turn, among them those that were put aside. -/
theorem finishPass_tells (chance : Chance) (me : Nat) (ready : List Ready) (discarded : List Core)
    (board : Board) (s : Scene) (hids : f.states.ids.Nodup) :
    ∃ matched placed gone,
      Assigns f.board ((board.registry.candidates f.constraint).map (·.id)) s placed ready matched ∧
      discarded ⊆ gone ∧
      (f.finishPass chance me ready discarded board s).1.point = .inTurn .discarding .idle gone ∧
      (f.finishPass chance me ready discarded board s).2.story =
        (gone.take 1).map .disposed ++ (placed ++ s.story) := by
  obtain ⟨placed, hassigns⟩ := f.assign_assigns
    ((board.registry.candidates f.constraint).map (·.id)) ready s
  have haside := (resize_rebalanceStep chance me discarded (f.assign s
    ((board.registry.candidates f.constraint).map (·.id)) ready) hids).aside
  refine ⟨_, placed, _, hassigns, resize_discarded chance hids me discarded (f.assign s
    ((board.registry.candidates f.constraint).map (·.id)) ready), ?_, ?_⟩
  · rw [finishPass_eq]
    rfl
  · rw [← hassigns.acts.story_eq, ← haside.story]
    exact disposeInTurn_story _ _ _ _ _

/-- What is assigned goes to one of the requests, and is one of the cores that were ready. -/
theorem Assigns.of_assigned {board : Nat} {requests : List Nat} {placed : List Event}
    {ready : List Ready} {matched : Matched} (hassigns : Assigns board requests s placed ready matched)
    {b id : Nat} {core : Core} (hassigned : .changed b (.assigned id core) ∈ placed) :
    b = board ∧ id ∈ requests ∧ core ∈ ready.map (·.2) := by
  obtain ⟨st, act, hmay, hact⟩ := hassigns.acts.of_mem_events hassigned
  cases act with
  | changed board change =>
    obtain ⟨rfl, rfl⟩ := Event.changed.inj (List.mem_singleton.mp hact)
    exact hmay
  | remarked e =>
    rw [Act.events, List.mem_singleton] at hact
    subst hact
    exact absurd hmay (by simp [MayPlace])
  | _ => exact absurd hact (by simp [Act.events])

/-- The end of a pass: every core that is assigned was ready, and the request it goes to was one that the
constraint admits. -/
structure Matches (f : Speculative) (s : Scene) (events : List Event) : Prop where
  point : ∃ ready discarded, f.point = .matching ready discarded ∧
    ∀ b id core, .changed b (.assigned id core) ∈ events → core ∈ ready.map (·.2)
  requests : ∀ b id core, .changed b (.assigned id core) ∈ events → b = f.board ∧
    ∃ r, s.request? b id = some r ∧ r.isCandidate f.constraint = true

/-- Whatever a step assigns, it assigns at the end of a pass. -/
theorem step_matches (hstage : s.stage.IsSound) (hsound : f.IsSound s.nextSerial)
    {r : Speculative × Scene} (hstep : f.step chance me s = some r) {events : List Event}
    (hstory : r.2.story = events ++ s.story) {b id : Nat} {core : Core}
    (hassigned : .changed b (.assigned id core) ∈ events) : f.Matches s events := by
  have hnotQuiet : ∀ cores : List Core, r.2.story ≠ cores.map .disposed ++ s.story := by
    intro cores hquiet
    obtain rfl := List.append_cancel_right (hstory.symm.trans hquiet)
    exact absurd hassigned (by simp)
  by_cases hpoint : ∃ ready discarded, f.point = .matching ready discarded
  · obtain ⟨ready, discarded, hpoint⟩ := hpoint
    cases step_loopStep hstep with
    | @assigns ready discarded board s₁ hthis haside hboard =>
      obtain ⟨matched, placed, gone, hassigns, -, -, htells⟩ := finishPass_tells chance me ready discarded
        board s₁ hsound.ids
      rw [haside.story, ← List.append_assoc] at htells
      have hevents := List.append_cancel_right (hstory.symm.trans htells)
      have hplaced : ∀ {b id core}, .changed b (.assigned id core) ∈ events → b = f.board ∧
          id ∈ (board.registry.candidates f.constraint).map (·.id) ∧ core ∈ ready.map (·.2) := by
        intro b id core hmem
        rw [hevents, List.mem_append] at hmem
        refine hassigns.of_assigned (hmem.resolve_left fun hdisposed => ?_)
        obtain ⟨_, -, heq⟩ := List.mem_map.mp hdisposed
        exact Event.noConfusion heq
      refine ⟨⟨ready, discarded, hthis, fun b id core hmem => (hplaced hmem).2.2⟩,
        fun b id core hmem => ?_⟩
      obtain ⟨rfl, hid, -⟩ := hplaced hmem
      obtain ⟨q, hq, rfl⟩ := List.mem_map.mp hid
      obtain ⟨hthere, hcandidate⟩ := Registry.mem_candidates.mp hq
      rw [haside.stage] at hboard
      obtain ⟨found, hfound, hregistry, -⟩ := Scene.board_of_stage hboard
      refine ⟨rfl, q, ?_, hcandidate⟩
      rw [Scene.request?, hfound, Option.bind_some, hregistry]
      exact Registry.get?_of_mem (hstage.requests hboard).1 hthere
    | joins _ => exact absurd rfl (hnotQuiet [])
    | waits haside => exact absurd haside.story (hnotQuiet [])
    | begins h | reconciles h | counts h | judges h | discards h | stops h | notices h | wakes h
    | records h | resumes h | releases h | dissolves h | noticesLate h | finishes h =>
      exact absurd (hpoint.symm.trans h) (by simp)
  · obtain ⟨cores, hquiet⟩ := step_quiet hsound (fun ready discarded h => hpoint ⟨ready, discarded, h⟩)
      hstep
    exact absurd hquiet (hnotQuiet cores)

/-- An attempt changes no registry. -/
theorem stepAttempt_quiet {a : Attempt} {r : Speculative × Scene}
    (hstep : f.stepAttempt me a s = some r) :
    ∃ events, r.2.story = events ++ s.story ∧ ∀ b change, .changed b change ∉ events := by
  have hnothing : ∀ {s₁ : Scene}, s.Aside s₁ →
      ∃ events, s₁.story = events ++ s.story ∧ ∀ b change, .changed b change ∉ events :=
    fun haside => ⟨[], haside.story, fun _ _ => List.not_mem_nil⟩
  cases stepAttempt_attemptStep hstep with
  | @withdraws call _ _ => exact hnothing (s.aside_dropCall call)
  | calls _ haside => exact hnothing haside
  | @receives call result s₁ _ htells =>
    cases result with
    | core core => exact ⟨[.minted core], htells.story, fun _ _ => by simp⟩
    | failed chain =>
      exact hnothing ((Scene.Aside.trans htells (Scene.aside_report _ _ _ _)).trans
        (Scene.aside_trace _ _ _ _))
    | panicked => exact hnothing htells
  | resumes _ => exact hnothing (.refl s)
  | joins _ _ => exact hnothing (.refl s)
  | @settles core guard _ _ =>
    unfold settle
    simp only
    split
    · rename_i late _
      refine ⟨[.disposed late], ?_, fun _ _ => by simp⟩
      refine (Scene.performs_disposeCore _ late).story.trans ?_
      exact congrArg (Event.disposed late :: ·)
        ((s.aside_report _ _ _).trans (Scene.aside_trace _ _ _ _)).story
    · exact hnothing (s.aside_report _ _ _)
  | exits _ => exact hnothing (.refl s)

end CoreBroker.Speculative
