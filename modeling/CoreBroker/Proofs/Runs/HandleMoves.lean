import CoreBroker.Proofs.Runs.HandleSteps
set_option autoImplicit false

/-!
# Moves and handles

No move of the client but those that name the request does anything else with its handle than hand it on or
let an errand use it up; fulfillers have no handles at all.
-/

namespace CoreBroker

namespace World

variable {chance : Chance} {actor : Option Task} {b id : Nat} {w w' : World}

/-! ## Fulfillers -/

theorem Transitions.advances {events : List Event}
    (h : Transitions chance actor w events w') : w.scene.SceneAdvances b id w'.scene := by
  induction h with
  | refl => exact .refl _
  | next _ htransition ih =>
    obtain ⟨may, hacts⟩ := htransition.acts
    exact ih.trans hacts.advances

theorem Transitions.handleFlow (h : Transitions chance none w [] w') (herrands : w'.errands = w.errands)
    (hleaving : w'.leaving = w.leaving) : HandleFlow actor none b id w none w' none := by
  refine .of_advances h.advances (Nat.le_of_eq ?_) herrands hleaving
  rw [Scene.uses, Scene.uses, Scene.hasDisposed, Scene.hasDisposed, h.story_eq, List.nil_append]

/-- No task of a fulfiller uses a handle. -/
theorem Transition.handleFlow {t : Task} {events : List Event} (h : Transition chance w (some t) events w')
    (ht : t.isErrand = false) : HandleFlow actor none b id w none w' none := by
  cases h with
  | dedicated _ _ hsteps =>
    exact .of_acts hsteps.acts (fun event hevent => Scene.needsHandle_of_isOfLoop
      (Dedicated.isOfLoop_of_acts hsteps.acts event hevent)) rfl rfl
  | speculative _ _ haccounts =>
    exact .of_acts haccounts.acts (fun event hevent => Scene.needsHandle_of_isOfLoop
      (Speculative.isOfLoop_of_acts haccounts.acts event hevent)) rfl rfl
  | attempt _ _ _ haccounts =>
    exact .of_acts haccounts.acts (fun event hevent => Scene.needsHandle_of_isOfLoop
      (Speculative.isOfLoop_of_acts haccounts.acts event hevent)) rfl rfl
  | client hactor _ =>
    obtain ⟨n, rfl⟩ := hactor t rfl
    exact absurd ht (by simp [Task.isErrand])

theorem newDedicated_handleFlow {board roster i : Nat} {provider : ProviderRef}
    {settings : DedicatedSettings} (hparts : w.hasParts board roster = true)
    (hnew : w.newDedicated board roster provider settings = .ok (i, w')) :
    HandleFlow actor none b id w none w' none := by
  have htransitions : Transitions default none w [] w' := newDedicated_transitions hparts hnew
  unfold newDedicated at hnew
  split at hnew
  · exact absurd hnew (by simp)
  · have hafter : _ = w' := congrArg Prod.snd (Except.ok.inj hnew)
    exact htransitions.handleFlow (hafter ▸ rfl) (hafter ▸ rfl)

theorem newSpeculative_handleFlow {board roster i : Nat} {settings : SpeculativeSettings}
    (hparts : w.hasParts board roster = true)
    (hnew : w.newSpeculative board roster settings = .ok (i, w')) :
    HandleFlow actor none b id w none w' none := by
  have htransitions : Transitions default none w [] w' := newSpeculative_transitions hparts hnew
  unfold newSpeculative at hnew
  split at hnew
  · exact absurd hnew (by simp)
  · have hafter : _ = w' := congrArg Prod.snd (Except.ok.inj hnew)
    exact htransitions.handleFlow (hafter ▸ rfl) (hafter ▸ rfl)

theorem newBroker_handleFlow {board roster : Nat} {provider : Option ProviderRef}
    {settings : BrokerSettings} {service : Service} (hparts : w.hasParts board roster = true)
    (hnew : w.newBroker board roster provider settings = .ok (service, w')) :
    HandleFlow actor none b id w none w' none := by
  have htransitions : Transitions default none w [] w' := newBroker_transitions hparts hnew
  have hlocal : ∀ w : World, (w.beginLocalSide board provider settings).2.errands = w.errands ∧
      (w.beginLocalSide board provider settings).2.leaving = w.leaving := fun w => by
    cases provider <;> exact ⟨rfl, rfl⟩
  have hremote : ∀ w : World, (w.beginRemoteSide board roster settings).2.errands = w.errands ∧
      (w.beginRemoteSide board roster settings).2.leaving = w.leaving := fun w => by
    unfold beginRemoteSide
    split <;> exact ⟨rfl, rfl⟩
  unfold newBroker at hnew
  split at hnew
  · exact absurd hnew (by simp)
  · have hafter : _ = w' := congrArg Prod.snd (Except.ok.inj hnew)
    rw [← hafter]
    rw [← hafter] at htransitions
    exact htransitions.handleFlow ((hremote _).1.trans (hlocal w).1) ((hremote _).2.trans (hlocal w).2)

/-! ## Steps -/

theorem step_handleFlow (hw : w.IsSound) (hunshared : w.IsUnshared none none b id) {t : Task}
    (hstep : w.step chance t = some w') : HandleFlow (some t) none b id w none w' none := by
  cases herrand : t.isErrand with
  | false =>
    obtain ⟨events, htransition⟩ := step_transition hw hstep
    exact htransition.handleFlow herrand
  | true =>
    cases t with
    | errand serial =>
      cases hfind : w.errands.find? (·.1 == serial) with
      | none => simp [step, hfind] at hstep
      | some entry =>
        obtain ⟨n, x⟩ := entry
        have hmem : (n, x) ∈ w.errands := List.mem_of_find?_eq_some hfind
        obtain rfl : n = serial := by simpa using List.find?_some hfind
        simp only [step, hfind, Option.map_eq_some_iff] at hstep
        obtain ⟨p, hprogress, rfl⟩ := hstep
        have hstake := hunshared.1 x (mem_doing_none.mpr ⟨n, hmem⟩)
        exact conclude_handleFlow hw.orderly hmem hstake (stepErrand_isClientStep hw hmem hprogress)
          (stepErrand_handleFlow hw hmem hstake hprogress)
    | _ => exact absurd herrand (by simp [Task.isErrand])

/-! ## Moves -/

theorem attachService_handleFlow (w : World) (sink : Trace.Sink) (service : Service) :
    HandleFlow actor none b id w none (w.attachService sink service) none := by
  have hboard : ∀ (w : World) (n : Nat), HandleFlow actor none b id w none (w.attachBoard sink n) none :=
    fun w n => .of_aside (w.scene.aside_modifyBoard n (fun _ => rfl) fun _ => rfl) rfl rfl
  have hroster : ∀ (w : World) (n : Nat), HandleFlow actor none b id w none (w.attachRoster sink n) none :=
    fun w n => .of_aside (w.scene.aside_modifyRoster n (fun _ => rfl) fun _ => rfl) rfl rfl
  have hparts : HandleFlow actor none b id w none (if service.isBroker then
      (w.attachBoard sink service.board).attachRoster sink service.roster else w) none := by
    split
    · exact (hboard w _).trans (hroster _ _)
    · exact .refl w
  have hdedicated : ∀ (w : World) (i : Nat),
      HandleFlow actor none b id w none (w.attachDedicated sink i) none := fun w i =>
    .of_aside (.refl _) rfl rfl
  have hspeculative : ∀ (w : World) (i : Nat),
      HandleFlow actor none b id w none (w.attachSpeculative sink i) none := fun w i =>
    .of_aside (.refl _) rfl rfl
  exact (hparts.trans (.foldl hdedicated _ _)).trans (.foldl hspeculative _ _)

/-- An errand that the client may begin is in line: it has made nothing to wait for yet. -/
theorem isInLine_of_isOpening {x : Errand} (hopening : x.isOpening = true) (s : Scene) :
    x.IsInLine s b id := by
  cases x with
  | reserve board preference token service stage =>
    cases stage with
    | drafting | entering _ => trivial
    | waiting _ | abandoning _ _ | disposing _ _ => exact absurd hopening Bool.false_ne_true
  | disposing board n left => exact absurd hopening Bool.false_ne_true
  | _ => trivial

/-- A core is passed to a request under a snapshot, or the request refuses it. -/
theorem assignUnder_handleFlow (w : World) (held : Snapshot) (request : Nat) (core : Core) :
    HandleFlow actor none b id w none (w.assignUnder held request core).2 none := by
  have hoffered : HandleFlow actor none b id w none
      (w.withScene (w.scene.note (.offered held.board request core))) none :=
    .of_act (w.scene.performs_note rfl) (fun _ hevent => List.mem_singleton.mp hevent ▸ rfl) rfl rfl
  refine hoffered.trans ?_
  unfold assignUnder
  dsimp only
  split
  · exact .of_act (Scene.performs_assignCore ‹_›)
      (fun _ hevent => List.mem_singleton.mp hevent ▸ rfl) rfl rfl
  · have hrefused := (Scene.performs_note (w.scene.note (.offered held.board request core))
      (show (Event.refused held.board request core).isRemark = true from rfl)).andAside
      (ClientStep.aside_receiveCore (w.withScene ((w.scene.note (.offered held.board request core)).note
        (.refused held.board request core))) core)
    exact .of_act hrefused (fun _ hevent => List.mem_singleton.mp hevent ▸ rfl) rfl rfl

/-- A move of the client that does not name the request hands its handle on at most, or lets an errand use
it up. -/
theorem perform_handleFlow (chance : Chance) (hw : w.IsSound) (hunshared : w.IsUnshared none none b id)
    (hinLine : ∀ x ∈ w.doing none none, x.IsInLine w.scene b id) {m : Move}
    (hm : m.handles b id = false) : HandleFlow m.actor none b id w none (w.perform chance m) none := by
  have houtcome := w.perform_outcome chance m
  generalize w.perform chance m = w' at houtcome
  cases houtcome with
  | unchanged => exact .refl w
  | stepped hstep => exact step_handleFlow hw hunshared hstep
  | abandoned errand => exact abandon_handleFlow hw.orderly hunshared hinLine errand
  | scenery _ hacts _ => exact .of_acts hacts (by simp) rfl rfl
  | begun hopening =>
    simp only [Move.handles, Bool.or_eq_false_iff, beq_eq_false_iff_ne] at hm
    refine .sent (Errand.holds_eq_zero fun hmem => ?_) hm.2 (isInLine_of_isOpening hopening _)
    exact absurd (List.contains_iff_mem.mpr hmem) (Bool.eq_false_iff.mp hm.1)
  | called provider token =>
    have hcalled : HandleFlow none none b id w none (w.withScene (w.scene.newCall provider token).2) none :=
      .of_aside (w.scene.aside_newCall provider token) rfl rfl
    exact hcalled.trans (.sent rfl (by simp [Errand.stake?]) trivial)
  | @probed core _ token =>
    have hgone : HandleFlow none none b id w none ((w.letGo core).withScene w.scene.fresh.2) none :=
      .of_aside w.scene.aside_fresh rfl rfl
    exact hgone.trans (.sent rfl (by simp [Errand.stake?]) trivial)
  | @taken board n core _ htake =>
    have hafter : (w.takeCore board n).2 = w' := congrArg Prod.snd htake
    exact hafter ▸ takeCore_handleFlow w none fun hsame => by simp [Move.handles, hsame] at hm
  | givenUp stake => exact giveUp_handleFlow (by simpa [Move.handles] using hm)
  | made handle number liveness =>
    have hminted := (w.scene.performs_mint handle number handle liveness).andAside
      (ClientStep.aside_receiveCore (w.withScene (w.scene.mint handle number handle liveness).2)
        (w.scene.mint handle number handle liveness).1)
    exact .of_act hminted (fun _ hevent => List.mem_singleton.mp hevent ▸ rfl) rfl rfl
  | @offered lock core _ _ =>
    have hnoted : HandleFlow none none b id w none ((w.letGo core).withScene
        (w.scene.note (.offered lock.board lock.request core))) none :=
      .of_act (w.scene.performs_note rfl) (fun _ hevent => List.mem_singleton.mp hevent ▸ rfl) rfl rfl
    exact hnoted.trans (.sent rfl (by simp [Errand.stake?]) trivial)
  | @assignedUnder snapshot core request _ _ =>
    have hgone : HandleFlow none none b id w none (w.letGo core) none := .of_aside (.refl _) rfl rfl
    exact hgone.trans (assignUnder_handleFlow _ snapshot request core)
  | @droppedSnapshot snapshot _ => exact .of_aside (w.scene.aside_leave snapshot.board) rfl rfl
  | @disposed core _ =>
    exact .of_act (w.scene.performs_disposeCore core)
      (fun _ hevent => List.mem_singleton.mp hevent ▸ rfl) rfl rfl
  | @droppedCore core _ => exact .of_aside (w.scene.aside_giveBackSlot core) rfl rfl
  | newDedicated hparts hnew => exact newDedicated_handleFlow hparts hnew
  | newSpeculative hparts hnew => exact newSpeculative_handleFlow hparts hnew
  | newBroker hparts hnew => exact (newBroker_handleFlow hparts hnew).trans (.of_aside (.refl _) rfl rfl)
  | attached sink service => exact w.attachService_handleFlow sink service
  | collected errand => exact .of_aside (.refl _) rfl rfl

end World

end CoreBroker
