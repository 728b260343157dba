import CoreBroker.Proofs.Runs.MoveInversion
import CoreBroker.Proofs.Runs.Transitions
set_option autoImplicit false

/-!
# Every move is a chain of transitions

From here on nothing about moves is used but that.
-/

namespace CoreBroker.World

variable {chance : Chance} {w : World}

/-! ## Setting fulfillers up -/

theorem subscribeBoard_of_board {s : Scene} {b : Nat} {board : Board}
    (hboard : s.boards[b]? = some board) : (s.subscribeBoard b).1 = board.changes.issued ∧
      (s.subscribeBoard b).2.stage =
        s.stage.setBoard b (board.registry, board.changes.subscribe.2) := by
  simp only [Scene.subscribeBoard, hboard]
  exact ⟨rfl, Scene.stage_modifyBoard hboard _⟩

theorem subscribeRoster_of_roster {s : Scene} {r : Nat} {roster : Roster}
    (hroster : s.rosters[r]? = some roster) : (s.subscribeRoster r).1 = roster.changes.issued ∧
      (s.subscribeRoster r).2.stage =
        s.stage.setRoster r (roster.members, roster.changes.subscribe.2) := by
  simp only [Scene.subscribeRoster, hroster]
  exact ⟨rfl, Scene.stage_modifyRoster hroster _⟩

theorem beginDedicated_transition {board : Nat} (hlt : board < w.scene.boards.length)
    (provider : ProviderRef) (settings : DedicatedSettings) :
    Transition chance w none [] (w.beginDedicated board provider settings).2 := by
  obtain ⟨found, hfound⟩ : ∃ found, w.scene.boards[board]? = some found :=
    ⟨_, List.getElem?_eq_getElem hlt⟩
  have hfresh : w.scene.fresh.2.boards[board]? = some found := hfound
  obtain ⟨hreceiver, hstage⟩ := subscribeBoard_of_board hfresh
  have hsubscribed : w.scene.ActSequence w.May [] (w.scene.fresh.2.subscribeBoard board).2 :=
    (Scene.ActSequence.refl.aside w.scene.aside_fresh).trans
      (Scene.acts_subscribeBoard (show w.May _ (.joined board) from trivial))
  have hrest := (Scene.aside_report (w.scene.fresh.2.subscribeBoard board).2 .info
    "Starting single-source fulfiller" [("provider_id", .ofText provider.id),
      ("fulfills_local", .ofText (if settings.servesLocal then "true" else "false"))]).trans
    (Scene.aside_spawn _ (.dedicated w.dedicated.length))
  refine .employed rfl rfl (Scene.stage_board hfound) hreceiver ?_ (hsubscribed.aside hrest)
  exact hrest.stage.trans hstage

theorem beginSpeculative_transition {board roster : Nat} (hboard : board < w.scene.boards.length)
    (hroster : roster < w.scene.rosters.length) (settings : SpeculativeSettings) :
    Transition chance w none [] (w.beginSpeculative board roster settings).2 := by
  obtain ⟨found, hfound⟩ : ∃ found, w.scene.boards[board]? = some found :=
    ⟨_, List.getElem?_eq_getElem hboard⟩
  obtain ⟨listed, hlisted⟩ : ∃ listed, w.scene.rosters[roster]? = some listed :=
    ⟨_, List.getElem?_eq_getElem hroster⟩
  have hfresh : w.scene.fresh.2.boards[board]? = some found := hfound
  obtain ⟨hreceiver, hstage⟩ := subscribeBoard_of_board hfresh
  have hkept : (w.scene.fresh.2.subscribeBoard board).2.rosters[roster]? = some listed := by
    simp only [Scene.subscribeBoard, hfresh]
    exact hlisted
  obtain ⟨hrosterReceiver, hrosterStage⟩ := subscribeRoster_of_roster hkept
  have hsubscribed : w.scene.ActSequence w.May []
      ((w.scene.fresh.2.subscribeBoard board).2.subscribeRoster roster).2 :=
    ((Scene.ActSequence.refl.aside w.scene.aside_fresh).trans
      (Scene.acts_subscribeBoard (show w.May _ (.joined board) from trivial))).trans
      (Scene.acts_subscribeRoster (show w.May _ (.joinedRoster roster) from trivial))
  have hrest : ((w.scene.fresh.2.subscribeBoard board).2.subscribeRoster roster).2.Aside
      (w.beginSpeculative board roster settings).2.scene :=
    (Scene.aside_report _ _ _ _).trans (Scene.aside_spawn _ (.speculative w.speculative.length))
  have hmembers : w.scene.stage.rosters[roster]? = some (listed.members, listed.changes) := by
    simp [Scene.stage, hlisted]
  refine .engaged rfl (Scene.stage_board hfound) hreceiver hmembers hrosterReceiver ?_
    (hsubscribed.aside hrest)
  refine hrest.stage.trans (hrosterStage.trans ?_)
  rw [hstage]
  rfl

/-- The length of the list of registries does not shrink while fulfillers are set up. -/
theorem boards_beginDedicated (w : World) (board : Nat) (provider : ProviderRef)
    (settings : DedicatedSettings) :
    (w.beginDedicated board provider settings).2.scene.boards.length = w.scene.boards.length ∧
      (w.beginDedicated board provider settings).2.scene.rosters = w.scene.rosters := by
  have hreport : ∀ (s : Scene) (level : Log.Level) (message : Phrase Nat)
      (fields : List (String × Phrase Nat)), (s.report level message fields).boards = s.boards ∧
        (s.report level message fields).rosters = s.rosters := fun s level message fields => by
    unfold Scene.report
    split <;> exact ⟨rfl, rfl⟩
  have hsubscribe : ∀ s : Scene, (s.subscribeBoard board).2.boards.length = s.boards.length ∧
      (s.subscribeBoard board).2.rosters = s.rosters := fun s => by
    unfold Scene.subscribeBoard
    split
    · exact ⟨rfl, rfl⟩
    · exact ⟨by simp [Scene.modifyBoard], rfl⟩
  simp only [beginDedicated, Dedicated.new, Scene.spawn, hreport]
  exact hsubscribe _

/-! ## Steps -/

theorem step_transition (hw : w.IsSound) {t : Task} {w' : World}
    (hstep : w.step chance t = some w') : ∃ events, Transition chance w (some t) events w' := by
  cases t with
  | dedicated i =>
    cases hf : w.dedicated[i]? with
    | none => simp [step, hf] at hstep
    | some f =>
      simp only [step, hf, Option.map_eq_some_iff] at hstep
      obtain ⟨⟨f', s⟩, hloop, rfl⟩ := hstep
      obtain ⟨events, hsteps⟩ := Dedicated.step_steps hw.scene.stage
        (hw.dedicated f (List.mem_of_getElem? hf)) hloop
      exact ⟨events, .dedicated hf hloop hsteps⟩
  | speculative i =>
    cases hf : w.speculative[i]? with
    | none => simp [step, hf] at hstep
    | some f =>
      simp only [step, hf, Option.map_eq_some_iff] at hstep
      obtain ⟨⟨f', s⟩, hloop, rfl⟩ := hstep
      obtain ⟨events, haccounts⟩ := Speculative.step_accounts chance hw.scene.stage
        (hw.speculative f (List.mem_of_getElem? hf)) hloop
      exact ⟨events, .speculative hf hloop haccounts⟩
  | attempt i serial =>
    cases hf : w.speculative[i]? with
    | none => simp [step, hf] at hstep
    | some f =>
      cases hfind : f.attempts.find? (·.serial == serial) with
      | none => simp [step, hf, hfind] at hstep
      | some a =>
        simp only [step, hf, hfind, Option.map_eq_some_iff] at hstep
        obtain ⟨⟨f', s⟩, hattempt, rfl⟩ := hstep
        have ha := List.mem_of_find?_eq_some hfind
        have hserial : a.serial = serial := by simpa using List.find?_some hfind
        obtain ⟨events, haccounts⟩ := Speculative.stepAttempt_accounts
          (hw.speculative f (List.mem_of_getElem? hf)) ha hattempt
        exact ⟨events, hserial ▸ .attempt hf ha hattempt haccounts⟩
  | errand serial =>
    cases hfind : w.errands.find? (·.1 == serial) with
    | none => simp [step, hfind] at hstep
    | some entry =>
      obtain ⟨n, x⟩ := entry
      have hmem : (n, x) ∈ w.errands := List.mem_of_find?_eq_some hfind
      have hn : n = serial := by simpa using List.find?_some hfind
      subst hn
      simp only [step, hfind, Option.map_eq_some_iff] at hstep
      obtain ⟨p, hprogress, rfl⟩ := hstep
      obtain ⟨events, hclient⟩ := conclude_clientStep hw.orderly hmem
        (stepErrand_isClientStep hw hmem hprogress)
      exact ⟨events, .client (fun t ht => ⟨n, (Option.some.inj ht).symm⟩) hclient⟩

/-- What the client does itself is a transition. -/
theorem transition_of_clientStep (chance : Chance) {events : List Event} {w' : World}
    (hclient : ClientStep w none none events w' none) : Transition chance w none events w' :=
  .client (fun t ht => absurd ht (by simp)) hclient

theorem addService_transition (chance : Chance) (w : World) (service : Service) :
    Transition chance w none [] (w.addService service).2 :=
  transition_of_clientStep chance (.quiet ⟨rfl, rfl, rfl, rfl⟩ .refl fun _ => Nat.le_refl _)

theorem newDedicated_transitions {board roster : Nat} (hparts : w.hasParts board roster = true)
    {provider : ProviderRef} {settings : DedicatedSettings} {i : Nat} {w' : World}
    (hnew : w.newDedicated board roster provider settings = .ok (i, w')) :
    Transitions chance none w [] w' := by
  simp only [hasParts, Bool.and_eq_true, decide_eq_true_eq] at hparts
  unfold newDedicated at hnew
  split at hnew
  · exact absurd hnew (by simp)
  · simp only [Except.ok.injEq] at hnew
    have hbegun : Transition chance w none [] (w.beginDedicated board provider settings).2 :=
      beginDedicated_transition hparts.1 provider settings
    have hadded := addService_transition chance (w.beginDedicated board provider settings).2
      { board, roster, dedicated := some (w.beginDedicated board provider settings).1 }
    rw [hnew] at hadded
    exact hbegun.transitions.next hadded

theorem newSpeculative_transitions {board roster : Nat} (hparts : w.hasParts board roster = true)
    {settings : SpeculativeSettings} {i : Nat} {w' : World}
    (hnew : w.newSpeculative board roster settings = .ok (i, w')) :
    Transitions chance none w [] w' := by
  simp only [hasParts, Bool.and_eq_true, decide_eq_true_eq] at hparts
  unfold newSpeculative at hnew
  split at hnew
  · exact absurd hnew (by simp)
  · simp only [Except.ok.injEq] at hnew
    have hbegun : Transition chance w none [] (w.beginSpeculative board roster settings).2 :=
      beginSpeculative_transition hparts.1 hparts.2 settings
    have hadded := addService_transition chance (w.beginSpeculative board roster settings).2
      { board, roster, speculative := some (w.beginSpeculative board roster settings).1 }
    rw [hnew] at hadded
    exact hbegun.transitions.next hadded

theorem newBroker_transitions {board roster : Nat} (hparts : w.hasParts board roster = true)
    {provider : Option ProviderRef} {settings : BrokerSettings} {service : Service} {w' : World}
    (hnew : w.newBroker board roster provider settings = .ok (service, w')) :
    Transitions chance none w [] w' := by
  simp only [hasParts, Bool.and_eq_true, decide_eq_true_eq] at hparts
  have hlocal : Transitions chance none w [] (w.beginLocalSide board provider settings).2 ∧
      (w.beginLocalSide board provider settings).2.scene.boards.length =
        w.scene.boards.length ∧
      (w.beginLocalSide board provider settings).2.scene.rosters = w.scene.rosters := by
    cases provider with
    | none => exact ⟨.refl, rfl, rfl⟩
    | some provider =>
      have hbegun : Transition chance w none []
          (w.beginDedicated board provider settings.localSide).2 :=
        beginDedicated_transition hparts.1 provider settings.localSide
      exact ⟨hbegun.transitions, w.boards_beginDedicated board provider settings.localSide⟩
  obtain ⟨htransitions, hboards, hrosters⟩ := hlocal
  unfold newBroker at hnew
  split at hnew
  · exact absurd hnew (by simp)
  · generalize w.beginLocalSide board provider settings = begun at *
    obtain ⟨dedicated, w₁⟩ := begun
    simp only [Except.ok.injEq] at hnew htransitions hboards hrosters
    have hremote : Transitions chance none w₁ [] (w₁.beginRemoteSide board roster settings).2 := by
      unfold beginRemoteSide
      split
      · have hbegun : Transition chance w₁ none []
            (w₁.beginSpeculative board roster settings.remoteSide).2 :=
          beginSpeculative_transition (hboards ▸ hparts.1) (hrosters ▸ hparts.2) settings.remoteSide
        exact hbegun.transitions
      · exact .refl
    have hreported := fun (w : World) (dedicated speculative : Option Nat) =>
      transition_of_clientStep chance (ClientStep.aside (w := w) (e := none) (w.scene.aside_report .info
        "Worker pool created"
          [("local", .ofText (if dedicated.isSome then "true" else "false")),
            ("remote", .ofText (if speculative.isSome then "true" else "false"))]))
    have hall := (htransitions.trans hremote).next (hreported _ dedicated
      (w₁.beginRemoteSide board roster settings).1)
    rw [Prod.mk.injEq] at hnew
    rw [← hnew.2]
    exact hall

/-! ## Moves -/

theorem not_core_of_isOpening {x : Errand} (hx : x.isOpening = true) :
    x.core? = none ∧ x.passing? = none ∧ x.draft? = none := by
  cases x with
  | create board preference left made draft isMany =>
    simp only [Errand.isOpening, Bool.and_eq_true, Option.isNone_iff_eq_none] at hx
    exact ⟨rfl, rfl, hx.2⟩
  | reserve board preference token service stage =>
    cases stage with
    | entering draft => exact absurd hx (by simp [Errand.isOpening])
    | _ => exact ⟨rfl, rfl, rfl⟩
  | assign lock core => exact absurd hx (by simp [Errand.isOpening])
  | probe core ticket token => exact absurd hx (by simp [Errand.isOpening])
  | _ => exact ⟨rfl, rfl, rfl⟩

/-- Every move is a chain of transitions. -/
theorem perform_transitions (hw : w.IsSound) (m : Move) :
    ∃ events, Transitions chance m.actor w events (w.perform chance m) := by
  have hbyClient : ∀ {m : Move} {events : List Event} {w' : World}, m.actor = none →
      ClientStep w none none events w' none → ∃ events, Transitions chance m.actor w events w' :=
    fun hactor hclient => ⟨_, hactor ▸ (transition_of_clientStep chance hclient).transitions⟩
  have houtcome := w.perform_outcome chance m
  generalize w.perform chance m = w' at houtcome
  cases houtcome with
  | unchanged => exact ⟨[], .refl⟩
  | stepped hstep =>
    obtain ⟨events, htransition⟩ := step_transition hw hstep
    exact ⟨events, htransition.transitions⟩
  | abandoned errand =>
    obtain ⟨events, hclient⟩ := abandon_clientStep hw.orderly errand
    exact ⟨events, (Transition.client (fun t ht => ⟨errand, (Option.some.inj ht).symm⟩) hclient).transitions⟩
  | scenery hactor hacts _ => exact hbyClient hactor (withScene_clientStep hacts)
  | begun hopening =>
    obtain ⟨hcore, hpassing, hdraft⟩ := not_core_of_isOpening hopening
    exact hbyClient rfl (.sent hcore hpassing hdraft)
  | called provider token =>
    have hcalled : ClientStep w none none [] (w.withScene (w.scene.newCall provider token).2) none :=
      .aside (w.scene.aside_newCall provider token)
    exact hbyClient rfl (hcalled.trans (.sent rfl rfl rfl))
  | probed hhand token => exact hbyClient rfl (.probed hhand token)
  | taken htake =>
    exact hbyClient rfl (takeCore_clientStep w _ _ (fun y hy => absurd hy (by simp)) htake)
  | givenUp stake =>
    obtain ⟨events, hclient⟩ := giveUp_clientStep hw.orderly stake none
    exact hbyClient rfl hclient
  | made handle number liveness =>
    exact hbyClient rfl (.minted (fun y hy => absurd hy (by simp))
      (w.scene.performs_mint handle number handle liveness))
  | offered hhand _ => exact hbyClient rfl (.offered hhand)
  | assignedUnder request hhand _ =>
    unfold assignUnder
    simp only
    split
    · exact hbyClient rfl (.assignedUnder hhand (Scene.performs_assignCore ‹_›))
    · exact hbyClient rfl (.refusedUnder hhand)
  | @droppedSnapshot snapshot _ =>
    exact hbyClient rfl (.quiet ⟨rfl, rfl, rfl, rfl⟩
      (.aside .refl (w.scene.aside_leave snapshot.board)) fun _ => Nat.le_refl _)
  | disposed hhand => exact hbyClient rfl (.disposed hhand)
  | @droppedCore core _ =>
    exact hbyClient rfl (.quiet ⟨rfl, rfl, rfl, rfl⟩ (.aside .refl (w.scene.aside_giveBackSlot core))
      fun c => List.Sublist.count_le c List.filter_sublist)
  | newDedicated hparts hnew => exact ⟨[], newDedicated_transitions hparts hnew⟩
  | newSpeculative hparts hnew => exact ⟨[], newSpeculative_transitions hparts hnew⟩
  | @newBroker _ _ _ _ service w' hparts hnew =>
    exact ⟨[], (newBroker_transitions hparts hnew).next (addService_transition chance w' service)⟩
  | attached sink service => exact hbyClient rfl (w.attachService_clientStep sink service)
  | collected errand =>
    exact hbyClient rfl (.quiet ⟨rfl, rfl, rfl, rfl⟩ .refl fun _ => Nat.le_refl _)

end CoreBroker.World
