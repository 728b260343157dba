import CoreBroker.Proofs.Runs.ErrandLifecycle
import CoreBroker.Proofs.Speculative.AttemptSteps
set_option autoImplicit false

/-!
# Steps of errands

Every step of an errand, and abandoning one, is put together from single client steps.
-/

namespace CoreBroker.World

variable {w w' : World} {actor : Option Task} {e : Option Errand} {x : Errand} {serial : Nat}

/-! ## Soundness after a client step -/

/-- A draft has a number that no request in a registry has. -/
theorem IsSound.draft_new (hw : w.IsSound) (hmem : (serial, x) ∈ w.errands) {q : Request Core}
    (hdraft : x.draft? = some q) {b : Nat} {g : Registry Core} {changes : Channel Statistics}
    (hboard : w.scene.stage.boards[b]? = some (g, changes)) : ∀ p ∈ g.requests, p.id ≠ q.id := by
  intro p hp hid
  have hdrafted : 0 < w.drafted none q.id := by
    refine Nat.lt_of_lt_of_le ?_ (Nat.le_add_right _ _)
    exact List.countP_pos_iff.mpr ⟨_, hmem, by simp [Errand.drafts, hdraft]⟩
  obtain ⟨r, hr, hrid⟩ := (hw.scene.told b g changes hboard).exists_entered hp
  have hentered : 0 < w.scene.story.countP (·.enters q.id) :=
    List.countP_pos_iff.mpr ⟨_, mem_changesOf.mp hr, by simp [Event.enters, hrid, hid]⟩
  have honce := hw.numbers q.id
  omega

theorem dedicated_of_bare
    (hdedicated : w'.dedicated.map Dedicated.bare = w.dedicated.map Dedicated.bare)
    {f' : Dedicated} (hf' : f' ∈ w'.dedicated) : ∃ f ∈ w.dedicated, f.bare = f'.bare := by
  have hmem := List.mem_map_of_mem (f := Dedicated.bare) hf'
  rw [hdedicated] at hmem
  exact List.mem_map.mp hmem

theorem speculative_of_bare
    (hspeculative : w'.speculative.map Speculative.bare = w.speculative.map Speculative.bare)
    {f' : Speculative} (hf' : f' ∈ w'.speculative) : ∃ f ∈ w.speculative, f.bare = f'.bare := by
  have hmem := List.mem_map_of_mem (f := Speculative.bare) hf'
  rw [hspeculative] at hmem
  exact List.mem_map.mp hmem

theorem dedicated_isSound_of_bare {f f' : Dedicated} (hbare : f.bare = f'.bare)
    (hsound : f.IsSound) : f'.IsSound := by
  have hstripped : f.bare.IsSound := hsound
  rw [hbare] at hstripped
  exact hstripped

theorem speculative_isSound_of_bare {f f' : Speculative} {bound : Nat} (hbare : f.bare = f'.bare)
    (hsound : f.IsSound bound) : f'.IsSound bound := by
  have hstripped : f.bare.IsSound bound :=
    ⟨hsound.ids, hsound.serials, hsound.bounded, hsound.released, hsound.ended⟩
  rw [hbare] at hstripped
  exact ⟨hstripped.ids, hstripped.serials, hstripped.bounded, hstripped.released, hstripped.ended⟩

/-- A client step keeps the world sound. -/
theorem ClientStep.isSound {events : List Event} (hclient : ClientStep w actor none events w' none)
    (hw : w.IsSound) : w'.IsSound := by
  have hserial := hclient.acts.serial_le
  have hstory := hclient.acts.story_eq
  refine ⟨hclient.acts.isSound hw.scene, ?_, ?_, hclient.orderly hw.orderly, ?_, ?_⟩
  · intro f' hf'
    obtain ⟨f, hf, hbare⟩ := dedicated_of_bare hclient.dedicated hf'
    exact dedicated_isSound_of_bare hbare (hw.dedicated f hf)
  · intro f' hf'
    obtain ⟨f, hf, hbare⟩ := speculative_of_bare hclient.speculative hf'
    exact (speculative_isSound_of_bare hbare (hw.speculative f hf)).mono hserial
  · intro id
    have hdrafts := hclient.drafts id
    have honce := hw.numbers id
    have hbelow := hw.numbersBelow id
    rw [hstory, List.countP_append]
    by_cases hnew : w.scene.nextSerial ≤ id
    · have hle := Bool.toNat_le (decide (w.scene.nextSerial ≤ id ∧ id < w'.scene.nextSerial))
      have hnone := hbelow hnew
      omega
    · simp only [hnew, false_and, decide_false, Bool.toNat_false] at hdrafts
      omega
  · intro id hid
    have hdrafts := hclient.drafts id
    have hnone := hw.numbersBelow id (Nat.le_trans hserial hid)
    have hnot : ¬ (w.scene.nextSerial ≤ id ∧ id < w'.scene.nextSerial) := by omega
    simp only [hnot, decide_false, Bool.toNat_false] at hdrafts
    rw [hstory, List.countP_append]
    omega

/-! ## The guards of obtainments -/

/-- The queue for the guard of the obtainments of a fulfiller changes. -/
theorem ClientStep.queued {i : Nat} {f f' : Speculative} (hf : w.speculative[i]? = some f)
    (hbare : f'.bare = f.bare) (hguard : f.guard.holder = some (.speculative i) →
      f'.guard.holder = some (.speculative i)) :
    ClientStep w actor e [] { w with speculative := w.speculative.set i f' } e where
  acts := .refl
  dedicated := rfl
  speculative := by
    show (w.speculative.set i f').map Speculative.bare = w.speculative.map Speculative.bare
    obtain ⟨hlt, hget⟩ := List.getElem?_eq_some_iff.mp hf
    rw [List.map_set, hbare, ← hget, ← List.map_set, List.set_getElem_self]
  guards j g g' hg hg' hholder := by
    have hset : (w.speculative.set i f')[j]? = some g' := hg'
    by_cases hij : i = j
    · subst hij
      have hlt : i < w.speculative.length := (List.getElem?_eq_some_iff.mp hf).1
      rw [List.getElem?_set_self hlt, Option.some.injEq] at hset
      rw [hf, Option.some.injEq] at hg
      rw [← hset]
      exact hguard (hg ▸ hholder)
    · rw [List.getElem?_set_ne hij, hg, Option.some.injEq] at hset
      rw [← hset]
      exact hholder
  orderly hw := ⟨hw.errands, hw.errandsBelow, hw.locks, hw.locksBelow, hw.lockBoards, hw.fresh⟩
  fresh h := h
  cores _ := Nat.le_refl _
  passings _ _ _ := rfl
  drafts _ := Nat.le_add_right _ _
  locks _ _ := rfl
  marks _ _ _ hmarked := .inr ⟨List.not_mem_nil, hmarked⟩
  closings _ := by simp
  stopped t ht := absurd ht List.not_mem_nil

/-! ## Parts of steps -/

namespace Progress

/-- The world after the step. -/
def world : Progress → World
  | .goOn _ w | .finish _ w => w

/-- What the errand has become, unless it is over. -/
def errand? : Progress → Option Errand
  | .goOn e _ => some e
  | .finish _ _ => none

/-- The step is a client step and leaves the list of errands alone. -/
def IsClientStep (w : World) (serial : Nat) (x : Errand) (p : Progress) : Prop :=
  ∃ events, ClientStep w (some (.errand serial)) (some x) events p.world p.errand? ∧
    p.world.errands = w.errands

variable {p : Progress}

/-- What is dealt before belongs to the step. -/
theorem IsClientStep.after {events : List Event} {w₁ : World} (hclientStep : p.IsClientStep w₁ serial x)
    (hclient : ClientStep w (some (.errand serial)) (some x) events w₁ (some x))
    (herrands : w₁.errands = w.errands) : p.IsClientStep w serial x := by
  obtain ⟨events', hrest, hrest'⟩ := hclientStep
  exact ⟨_, hclient.trans hrest, hrest'.trans herrands⟩

/-- An errand with nothing of its own brings back a reply. -/
theorem finish_isClientStep {events : List Event} {w₁ : World} {r : Reply} (hpassing : x.passing? = none)
    (hclient : ClientStep w (some (.errand serial)) (some x) events w₁ (some x))
    (herrands : w₁.errands = w.errands) : (Progress.finish r w₁).IsClientStep w serial x :=
  ⟨_, hclient.trans (.ended hpassing), herrands⟩

/-- An errand with nothing of its own goes on. -/
theorem goOn_isClientStep {events : List Event} {w₁ : World} {x' : Errand} (hcore : x'.core? = x.core?)
    (hpassing : x'.passing? = x.passing?) (hdraft : x'.draft? = none ∨ x'.draft? = x.draft?)
    (hclient : ClientStep w (some (.errand serial)) (some x) events w₁ (some x))
    (herrands : w₁.errands = w.errands) : (Progress.goOn x' w₁).IsClientStep w serial x :=
  ⟨_, hclient.trans (.goesOn hcore hpassing hdraft), herrands⟩

end Progress

open Progress (finish_isClientStep goOn_isClientStep)

theorem underGuard_isClientStep {board : Nat} {act : Board → World → Progress} {p : Progress}
    (hw : w.IsSound) (hstep : w.underGuard x serial board act = some p)
    (hact : ∀ b s, (w.withScene s).IsSound →
      s.stage.boards[board]? = some (b.registry, b.changes) →
      (act b (w.withScene s)).IsClientStep (w.withScene s) serial x) : p.IsClientStep w serial x := by
  unfold underGuard at hstep
  cases henter : w.scene.enter board (.errand serial) with
  | blocked => simp [henter] at hstep
  | joined s =>
    simp only [henter, Option.some.injEq] at hstep
    rw [← hstep]
    exact ⟨[], .aside (Scene.aside_of_joined henter), rfl⟩
  | entered b s =>
    simp only [henter, Option.some.injEq] at hstep
    rw [← hstep]
    obtain ⟨haside, hboard, -⟩ := Scene.aside_of_entered henter
    have hclient : ClientStep w none none [] (w.withScene s) none := .aside haside
    refine (hact b s (hclient.isSound hw) ?_).after (.aside haside) rfl
    rw [haside.stage]
    exact Scene.stage_board hboard

theorem leave_clientStep (w : World) (board : Nat) : ClientStep w actor e [] (w.leave board) e :=
  .aside (w.scene.aside_leave board)

/-- Removing a request is a client step of an errand. -/
theorem removeRequest_clientStep (w : World) (serial : Nat) (e : Option Errand) (board id : Nat) :
    ∃ events, ClientStep w (some (.errand serial)) e events (w.removeRequest board id) e := by
  unfold removeRequest
  cases hrequest : w.scene.request? board id with
  | none =>
    rw [Scene.disposeRequest_of_none hrequest]
    exact ⟨[], .aside (w.scene.aside_leave board)⟩
  | some q =>
    obtain ⟨hcore, hperforms⟩ := Scene.performs_disposeRequest hrequest
    have hclosed : ClientStep w (some (.errand serial)) e _ _ e :=
      .closed rfl hperforms (Scene.aside_leave _ board)
    rw [← hcore] at hclosed
    exact ⟨_, hclosed⟩

/-- An errand that disposes of a request goes on without anything new of its own. -/
theorem disposeRequest_isClientStep {board id : Nat} {waiting : Errand} {next : World → Progress}
    (hcore : waiting.core? = x.core?) (hpassing : waiting.passing? = x.passing?)
    (hdraft : waiting.draft? = none)
    (hnext : ∀ events, ClientStep w (some (.errand serial)) (some x) events (w.removeRequest board id)
      (some x) → (next (w.removeRequest board id)).IsClientStep w serial x) :
    (w.disposeRequest board id waiting next).IsClientStep w serial x := by
  obtain ⟨events, hclient⟩ := w.removeRequest_clientStep serial (some x) board id
  unfold disposeRequest
  split
  · exact goOn_isClientStep hcore hpassing (.inl hdraft) hclient rfl
  · exact hnext events hclient

theorem enterRequest_clientStep (hw : w.IsSound) (hmem : (serial, x) ∈ w.errands) {q : Request Core}
    {x' : Errand} {board : Nat} {g : Registry Core} {changes : Channel Statistics}
    (hboard : w.scene.stage.boards[board]? = some (g, changes)) (hdraft : x.draft? = some q)
    (hafter : x'.draft? = none) (hcore : x'.core? = x.core?)
    (hpassing : x'.passing? = x.passing?) :
    ClientStep w actor (some x) [.changed board (.entered q)] (w.enterRequest board q) (some x') := by
  have hentered := Scene.performs_enterRequest hboard (hw.draft_new hmem hdraft hboard)
    (hw.orderly.fresh _ hmem q hdraft)
  exact (ClientStep.entered hdraft hafter hcore hpassing hentered).trans (leave_clientStep _ board)

theorem takeCore_clientStep (w : World) (board id : Nat) (hpassing : ∀ y ∈ e, y.passing? = none)
    {core : Core} (htake : w.takeCore board id = (some core, w')) :
    ClientStep w actor e [.changed board (.taken id core)] w' none := by
  unfold takeCore at htake
  cases hscene : w.scene.takeCore board id with
  | mk found s =>
    cases found with
    | none => simp [hscene] at htake
    | some held =>
      simp only [hscene, Prod.mk.injEq, Option.some.injEq] at htake
      obtain ⟨rfl, rfl⟩ := htake
      exact .taken hpassing (Scene.performs_takeCore hscene)

theorem takeCore_none (w : World) (board id : Nat) (htake : w.takeCore board id = (none, w')) :
    w' = w := by
  unfold takeCore at htake
  split at htake
  · exact absurd htake (by simp)
  · exact (Prod.mk.inj htake).2.symm

theorem errands_takeCore (w : World) (board id : Nat) :
    (w.takeCore board id).2.errands = w.errands := by
  unfold takeCore
  split <;> rfl

theorem answer_isClientStep {board : Nat} {b : Board} {service : Option Nat}
    (hboard : w.scene.stage.boards[board]? = some (b.registry, b.changes)) (query : Query) :
    (w.answer board b query).IsClientStep w serial (.ask board query service) := by
  have hplain : ∀ r, (Progress.finish r (w.leave board)).IsClientStep w serial (.ask board query service) :=
    fun r => finish_isClientStep rfl (leave_clientStep w board) rfl
  cases query with
  | statistics => exact hplain _
  | counts => exact hplain _
  | summaries => exact hplain _
  | count c => exact hplain _
  | hasNext includeLocal remoteDelay => exact hplain _
  | next includeLocal remoteDelay =>
    simp only [answer]
    split
    · exact hplain _
    · rename_i r hnext
      obtain ⟨hmem, hcandidate⟩ := Registry.next?_candidate hnext
      have hreserved := Scene.performs_reserveRequest hboard hmem hcandidate
      have hall := ((hreserved.andAside (Scene.aside_leave _ board)).andAside
        (Scene.aside_reportReserved _ board r.id)).andAside (Scene.aside_fresh _)
      have hlt : board < w.scene.stage.boards.length := (List.getElem?_eq_some_iff.mp hboard).1
      have hacts := hall.acts (show w.May w.scene.stage _ from trivial)
      refine finish_isClientStep rfl (.reserved hacts ?_ ?_ (Nat.lt_succ_self _)) rfl
      · exact Nat.lt_of_lt_of_le hlt hacts.length_boards_le
      · exact ((hreserved.andAside (Scene.aside_leave _ board)).andAside
          (Scene.aside_reportReserved _ board r.id)).serial
  | snapshot c =>
    simp only [answer]
    refine finish_isClientStep rfl (.quiet ⟨rfl, rfl, rfl, rfl⟩ ?_ fun _ => Nat.le_refl _) rfl
    exact .aside .refl (w.scene.aside_fresh.trans
      (Scene.aside_modifyBoard _ board (fun _ => rfl) fun _ => rfl))

theorem stepStopping_isClientStep {isBroker : Bool} {parts : List Stopping} {p : Progress}
    {isBegun : Bool} (hstep : w.stepStopping isBroker parts = some p) :
    p.IsClientStep w serial (.shutDown isBroker isBegun parts) := by
  unfold stepStopping at hstep
  split at hstep
  · simp only [Option.some.injEq] at hstep
    rw [← hstep]
    have haside : w.scene.Aside (if isBroker then
        w.scene.report .info "Worker pool shut down complete" [] else w.scene) := by
      split
      · exact w.scene.aside_report _ _ _
      · exact .refl _
    exact finish_isClientStep rfl (.aside haside) rfl
  · rename_i i rest
    simp only [Option.some.injEq] at hstep
    rw [← hstep]
    unfold stopDedicated
    split
    · exact goOn_isClientStep rfl rfl (.inl rfl) (.aside (w.scene.aside_fire _)) rfl
    · exact goOn_isClientStep rfl rfl (.inl rfl) (.refl w _ _) rfl
  · rename_i i rest
    simp only [Option.some.injEq] at hstep
    rw [← hstep]
    unfold stopSpeculative
    split
    · exact goOn_isClientStep rfl rfl (.inl rfl) (.aside (w.scene.aside_fire _)) rfl
    · exact goOn_isClientStep rfl rfl (.inl rfl) (.refl w _ _) rfl
  · rename_i i rest
    split at hstep
    · simp only [Option.some.injEq] at hstep
      rw [← hstep]
      exact goOn_isClientStep rfl rfl (.inl rfl) (.refl w _ _) rfl
    · rename_i f hf
      split at hstep
      · rename_i hover
        simp only [Option.some.injEq] at hstep
        rw [← hstep]
        have haside : w.scene.Aside ((if f.point == .panicked then
            w.scene.report .warn "single-source control loop panicked" [f.providerField]
            else w.scene).report .info "Single-source fulfiller shut down" [f.providerField]) := by
          refine Scene.Aside.trans ?_ (Scene.aside_report _ _ _ _)
          split
          · exact w.scene.aside_report _ _ _
          · exact .refl _
        refine goOn_isClientStep rfl rfl (.inl rfl) ((ClientStep.aside haside).trans (.stoppedLoop ?_)) rfl
        show (w.dedicated[i]?).any (·.isOver) = true
        rw [hf]
        exact hover
      · exact absurd hstep (by simp)
  · rename_i i rest
    split at hstep
    · simp only [Option.some.injEq] at hstep
      rw [← hstep]
      exact goOn_isClientStep rfl rfl (.inl rfl) (.refl w _ _) rfl
    · rename_i f hf
      split at hstep
      · rename_i hover
        simp only [Option.some.injEq] at hstep
        rw [← hstep]
        refine goOn_isClientStep rfl rfl (.inl rfl) ((ClientStep.aside (w.scene.aside_report .info
          "Multi-source fulfiller shut down" [])).trans (.stoppedLoop ?_)) rfl
        show (w.speculative[i]?).any (·.isOver) = true
        rw [hf]
        exact hover
      · exact absurd hstep (by simp)

theorem sight_isClientStep {i service : Nat} {p : Progress}
    (hstep : w.stepErrand serial (.sight i service) = some p) :
    p.IsClientStep w serial (.sight i service) := by
  simp only [stepErrand] at hstep
  split at hstep
  · simp only [Option.some.injEq] at hstep
    rw [← hstep]
    exact finish_isClientStep rfl (.refl w _ _) rfl
  · rename_i f hf
    cases henter : f.enter (.errand serial) with
    | blocked => simp [henter] at hstep
    | joined f' =>
      simp only [henter, Option.some.injEq] at hstep
      rw [← hstep]
      obtain ⟨guard, hjoined, hholder⟩ := Speculative.of_enter_joined henter
      subst hjoined
      exact ⟨[], .queued hf rfl fun h => hholder.trans h, rfl⟩
    | entered f' =>
      simp only [henter, Option.some.injEq] at hstep
      rw [← hstep]
      obtain ⟨guard, hentered, -, hfree⟩ := Speculative.of_enter_entered henter
      subst hentered
      refine finish_isClientStep rfl (.queued hf rfl fun h => ?_) rfl
      rcases hfree with hnone | hself
      · rw [h] at hnone
        exact absurd hnone (by simp)
      · rw [h] at hself
        exact absurd hself (by simp)

/-! ## The errands -/

/-- Requests are made one after the other, each drafted before the guard of the registry is taken. -/
theorem create_isClientStep (hw : w.IsSound) {board left : Nat} {preference : Preference} {made : List Nat}
    {draft : Option (Request Core)} {isMany : Bool}
    (hmem : (serial, .create board preference left made draft isMany) ∈ w.errands) {p : Progress}
    (hstep : w.stepErrand serial (.create board preference left made draft isMany) = some p) :
    p.IsClientStep w serial (.create board preference left made draft isMany) := by
  cases draft with
  | none =>
    simp only [stepErrand, Option.some.injEq] at hstep
    rw [← hstep]
    exact ⟨[], .drafted rfl rfl rfl, rfl⟩
  | some draft =>
    simp only [stepErrand] at hstep
    refine underGuard_isClientStep hw hstep fun b s hs hboard => ?_
    have hentered : ∀ left', ClientStep (w.withScene s) (some (.errand serial))
        (some (.create board preference left made (some draft) isMany))
        [.changed board (.entered draft)] ((w.withScene s).enterRequest board draft)
        (some (.create board preference left' (made ++ [draft.id]) none isMany)) := fun left' =>
      enterRequest_clientStep hs hmem hboard rfl rfl rfl rfl
    split
    · exact ⟨_, hentered (left - 1), rfl⟩
    · split
      · exact ⟨_, (hentered left).trans (.ended rfl), rfl⟩
      · exact ⟨_, (hentered left).trans (.ended rfl), rfl⟩

/-- A request that is waited for is disposed of when the wait ends without a core. -/
theorem reserve_isClientStep (hw : w.IsSound) {board : Nat} {preference : Preference} {token : Token}
    {service : Option Nat} {stage : ReserveStage}
    (hmem : (serial, .reserve board preference token service stage) ∈ w.errands) {p : Progress}
    (hstep : w.stepErrand serial (.reserve board preference token service stage) = some p) :
    p.IsClientStep w serial (.reserve board preference token service stage) := by
  cases stage with
  | drafting =>
    simp only [stepErrand, Option.some.injEq] at hstep
    rw [← hstep]
    exact ⟨[], .drafted rfl rfl rfl, rfl⟩
  | entering draft =>
    simp only [stepErrand] at hstep
    refine underGuard_isClientStep hw hstep fun b s hs hboard => ?_
    exact ⟨_, enterRequest_clientStep hs hmem hboard rfl rfl rfl rfl, rfl⟩
  | waiting id =>
    simp only [stepErrand] at hstep
    split at hstep
    · exact absurd hstep (by simp)
    · simp only [Option.some.injEq] at hstep
      rw [← hstep]
      exact finish_isClientStep rfl (.refl w _ _) rfl
    · simp only [Option.some.injEq] at hstep
      rw [← hstep]
      exact goOn_isClientStep rfl rfl (.inl rfl) (.aside (w.scene.aside_report _ _ _)) rfl
  | abandoning id reason =>
    simp only [stepErrand] at hstep
    exact underGuard_isClientStep hw hstep fun b s hs hboard =>
      disposeRequest_isClientStep rfl rfl rfl fun _ hclient => finish_isClientStep rfl hclient rfl
  | disposing id reason =>
    simp only [stepErrand, Option.some.injEq] at hstep
    rw [← hstep]
    exact finish_isClientStep rfl (.refl w _ _) rfl

/-- Waiting for a request; its core is taken only if that is asked for. -/
theorem wait_isClientStep {board id : Nat} {token : Token} {takes : Bool} {p : Progress}
    (hstep : w.stepErrand serial (.wait board id token takes) = some p) :
    p.IsClientStep w serial (.wait board id token takes) := by
  simp only [stepErrand] at hstep
  split at hstep
  · exact absurd hstep (by simp)
  · simp only [Option.some.injEq] at hstep
    rw [← hstep]
    exact finish_isClientStep rfl (.refl w _ _) rfl
  · split at hstep
    · split at hstep
      · rename_i core w' htake
        simp only [Option.some.injEq] at hstep
        rw [← hstep]
        refine ⟨_, takeCore_clientStep w board id ?_ htake, ?_⟩
        · rintro y hy
          cases hy
          rfl
        · have herrands := errands_takeCore w board id
          rw [htake] at herrands
          exact herrands
      · rename_i w' htake
        simp only [Option.some.injEq] at hstep
        rw [← hstep, takeCore_none w board id htake]
        exact finish_isClientStep rfl (.refl w _ _) rfl
    · simp only [Option.some.injEq] at hstep
      rw [← hstep]
      exact finish_isClientStep rfl (.refl w _ _) rfl

/-- Requests are disposed of one after the other, each under the guard of its registry. -/
theorem disposeAll_isClientStep (hw : w.IsSound) {requests : List (Nat × Nat)} {count : Nat} {p : Progress}
    (hstep : w.stepErrand serial (.disposeAll requests count) = some p) :
    p.IsClientStep w serial (.disposeAll requests count) := by
  cases requests with
  | nil =>
    simp only [stepErrand, Option.some.injEq] at hstep
    rw [← hstep]
    exact finish_isClientStep rfl (.refl w _ _) rfl
  | cons request rest =>
    obtain ⟨board, id⟩ := request
    simp only [stepErrand] at hstep
    exact underGuard_isClientStep hw hstep fun b s hs hboard =>
      disposeRequest_isClientStep rfl rfl rfl fun _ hclient =>
        goOn_isClientStep rfl rfl (.inl rfl) hclient rfl

/-- The core of an assignment goes to the request, or it is handed back. -/
theorem assign_isClientStep (hw : w.IsSound) {lock : Lock} {core : Core} {p : Progress}
    (hstep : w.stepErrand serial (.assign lock core) = some p) :
    p.IsClientStep w serial (.assign lock core) := by
  simp only [stepErrand] at hstep
  refine underGuard_isClientStep hw hstep fun b s hs hboard => ?_
  split
  · rename_i s' hassign
    have hassigned := (Scene.performs_assignCore hassign).andAside (s'.aside_leave lock.board)
    exact ⟨_, ClientStep.assigned hassigned, rfl⟩
  · have hrefused := (s.performs_note (show (Event.refused lock.board lock.request
      core).isRemark = true from rfl)).andAside (Scene.aside_leave _ lock.board)
    exact ⟨_, ClientStep.refused hrefused, rfl⟩

/-- A core that is asked whether it works is handed back with the answer. -/
theorem probe_isClientStep {core : Core} {ticket : Nat} {token : Token} {p : Progress}
    (hstep : w.stepErrand serial (.probe core ticket token) = some p) :
    p.IsClientStep w serial (.probe core ticket token) := by
  simp only [stepErrand] at hstep
  split at hstep
  · exact absurd hstep (by simp)
  · rename_i s hlook
    simp only [Option.some.injEq] at hstep
    rw [← hstep]
    exact ⟨[], .aside (Scene.aside_of_probe_moved hlook), rfl⟩
  · rename_i isAlive s hlook
    simp only [Option.some.injEq] at hstep
    rw [← hstep]
    exact ⟨[], .answered (Scene.aside_of_probe_answered hlook), rfl⟩

/-- A call of a provider mints the core that it brings. -/
theorem call_isClientStep {call : Call} {p : Progress} (hstep : w.stepErrand serial (.call call) = some p) :
    p.IsClientStep w serial (.call call) := by
  have htells := w.scene.lookAtCall_tells call
  simp only [stepErrand] at hstep
  split at hstep
  · exact absurd hstep (by simp)
  · rename_i call' s hlook
    rw [hlook] at htells
    simp only [Option.some.injEq] at hstep
    rw [← hstep]
    exact goOn_isClientStep rfl rfl (.inl rfl) (.aside htells) rfl
  · rename_i core s hlook
    rw [hlook] at htells
    simp only [Option.some.injEq] at hstep
    rw [← hstep]
    refine ⟨_, ClientStep.minted ?_ htells, rfl⟩
    rintro y hy
    cases hy
    rfl
  · rename_i chain s hlook
    rw [hlook] at htells
    simp only [Option.some.injEq] at hstep
    rw [← hstep]
    exact finish_isClientStep rfl (.aside htells) rfl
  · rename_i s hlook
    rw [hlook] at htells
    simp only [Option.some.injEq] at hstep
    rw [← hstep]
    exact finish_isClientStep rfl (.aside htells) rfl

theorem shutDown_isClientStep {isBroker isBegun : Bool} {parts : List Stopping} {p : Progress}
    (hstep : w.stepErrand serial (.shutDown isBroker isBegun parts) = some p) :
    p.IsClientStep w serial (.shutDown isBroker isBegun parts) := by
  unfold stepErrand at hstep
  split at hstep
  all_goals first | contradiction | skip
  · rename_i heq
    cases heq
    simp only [Option.some.injEq] at hstep
    rw [← hstep]
    exact goOn_isClientStep rfl rfl (.inl rfl) (.aside (w.scene.aside_report _ _ _)) rfl
  · rename_i heq
    cases heq
    exact stepStopping_isClientStep hstep

theorem stepErrand_isClientStep (hw : w.IsSound) (hmem : (serial, x) ∈ w.errands) {p : Progress}
    (hstep : w.stepErrand serial x = some p) : p.IsClientStep w serial x := by
  cases x with
  | create board preference left made draft isMany => exact create_isClientStep hw hmem hstep
  | reserve board preference token service stage => exact reserve_isClientStep hw hmem hstep
  | wait board id token takes => exact wait_isClientStep hstep
  | dispose board id =>
    simp only [stepErrand] at hstep
    exact underGuard_isClientStep hw hstep fun b s hs hboard =>
      disposeRequest_isClientStep rfl rfl rfl fun _ hclient => finish_isClientStep rfl hclient rfl
  | disposeAll requests count => exact disposeAll_isClientStep hw hstep
  | cleanUp board id =>
    simp only [stepErrand] at hstep
    exact underGuard_isClientStep hw hstep fun b s hs hboard =>
      disposeRequest_isClientStep rfl rfl rfl fun _ hclient => finish_isClientStep rfl hclient rfl
  | disposing board id left =>
    cases left with
    | reply | nothing =>
      simp only [stepErrand, Option.some.injEq] at hstep
      rw [← hstep]
      exact finish_isClientStep rfl (.refl w _ _) rfl
    | others requests count =>
      simp only [stepErrand, Option.some.injEq] at hstep
      rw [← hstep]
      exact goOn_isClientStep rfl rfl (.inl rfl) (.refl w _ _) rfl
  | ask board query service =>
    simp only [stepErrand] at hstep
    exact underGuard_isClientStep hw hstep fun b s hs hboard => answer_isClientStep hboard query
  | assign lock core => exact assign_isClientStep hw hstep
  | probe core ticket token => exact probe_isClientStep hstep
  | call call => exact call_isClientStep hstep
  | sight i service => exact sight_isClientStep hstep
  | shutDown isBroker isBegun parts => exact shutDown_isClientStep hstep

end CoreBroker.World
