import CoreBroker.Proofs.Runs.ClientMoves
import CoreBroker.Proofs.Runs.Guarding
set_option autoImplicit false

/-!
# Inversion of a move

`perform` is taken apart once, here.  More than half of the moves change nothing but the scene, and of
those it is enough to know what they may do to it; the others have a case each, with the conditions under
which they can be made.
-/

namespace CoreBroker.World

variable {chance : Chance} {w : World}

/-- What a move comes to. -/
inductive Outcome (chance : Chance) (w : World) : Move → World → Prop
  /-- The move cannot be made, or there was nothing to do. -/
  | unchanged {m : Move} : Outcome chance w m w
  | stepped {t : Task} {w' : World} (hstep : w.step chance t = some w') :
      Outcome chance w (.step t) w'
  | abandoned (errand : Nat) : Outcome chance w (.abandon errand) (w.abandon errand)
  /-- Only the scene has changed, the story has not, and no guard was taken from anybody. -/
  | scenery {m : Move} {s : Scene} (hactor : m.actor = none) (hacts : w.scene.ActSequence w.May [] s)
      (hkeeps : ∀ own who, Scene.Keeps own who w.scene s) : Outcome chance w m (w.withScene s)
  | begun {e : Errand} (hopening : e.isOpening = true) : Outcome chance w (.begin e) (w.send e).2
  | called (provider : Nat) (token : Token) : Outcome chance w (.call provider token)
      ((w.withScene (w.scene.newCall provider token).2).send
        (.call (w.scene.newCall provider token).1)).2
  | probed {core : Core} (hhand : core ∈ w.hand) (token : Token) :
      Outcome chance w (.probe core token)
        (((w.letGo core).withScene w.scene.fresh.2).send (.probe core w.scene.fresh.1 token)).2
  | taken {board id : Nat} {core : Core} {w' : World}
      (htake : w.takeCore board id = (some core, w')) : Outcome chance w (.take board id) w'
  | givenUp (stake : Stake) : Outcome chance w (.giveUp stake) (w.giveUp stake)
  | made (handle : String) (number : Nat) (liveness : Liveness) :
      Outcome chance w (.make handle number liveness)
        ((w.withScene (w.scene.mint handle number handle liveness).2).receiveCore
          (w.scene.mint handle number handle liveness).1)
  | offered {lock : Lock} {core : Core} (hhand : core ∈ w.hand) (hlock : lock ∈ w.locks) :
      Outcome chance w (.offer lock core) ((w.letGo core).offer lock core).2
  | assignedUnder {snapshot : Snapshot} {core : Core} (request : Nat) (hhand : core ∈ w.hand)
      (hsnapshot : snapshot ∈ w.snapshots) : Outcome chance w (.assignUnder snapshot request core)
        ((w.letGo core).assignUnder snapshot request core).2
  | droppedSnapshot {snapshot : Snapshot} (hsnapshot : snapshot ∈ w.snapshots) :
      Outcome chance w (.dropSnapshot snapshot) (w.dropSnapshot snapshot)
  | disposed {core : Core} (hhand : core ∈ w.hand) : Outcome chance w (.disposeCore core)
      ((w.letGo core).withScene (w.scene.disposeCore core))
  | droppedCore {core : Core} (hhand : core ∈ w.hand) : Outcome chance w (.dropCore core)
      ((w.letGo core).withScene (w.scene.giveBackSlot core))
  | newDedicated {board roster i : Nat} {provider : ProviderRef} {settings : DedicatedSettings}
      {w' : World} (hparts : w.hasParts board roster = true)
      (hnew : w.newDedicated board roster provider settings = .ok (i, w')) :
      Outcome chance w (.dedicated board roster provider settings) w'
  | newSpeculative {board roster i : Nat} {settings : SpeculativeSettings} {w' : World}
      (hparts : w.hasParts board roster = true)
      (hnew : w.newSpeculative board roster settings = .ok (i, w')) :
      Outcome chance w (.speculative board roster settings) w'
  | newBroker {board roster : Nat} {provider : Option ProviderRef} {settings : BrokerSettings}
      {service : Service} {w' : World} (hparts : w.hasParts board roster = true)
      (hnew : w.newBroker board roster provider settings = .ok (service, w')) :
      Outcome chance w (.broker board roster provider settings) (w'.addService service).2
  | attached (sink : Trace.Sink) (service : Service) :
      Outcome chance w (.attachService sink service) (w.attachService sink service)
  | collected (errand : Nat) : Outcome chance w (.collect errand)
      { w with replies := w.replies.filter (·.1 != errand) }

namespace Outcome

theorem of_aside {m : Move} {s : Scene} (hactor : m.actor = none) (haside : w.scene.Aside s)
    (hboards : s.boards = w.scene.boards) : Outcome chance w m (w.withScene s) :=
  .scenery hactor (.aside .refl haside) fun _ _ => .of_boards hboards

theorem guarded {m : Move} {w₁ : World} {c : Prop} [Decidable c]
    (hmade : c → Outcome chance w m w₁) : Outcome chance w m (if c then w₁ else w) := by
  split
  · exact hmade ‹_›
  · exact .unchanged

theorem unowned {m : Move} {w₁ : World} {isOwned : Bool}
    (hmade : isOwned = false → Outcome chance w m w₁) :
    Outcome chance w m (if isOwned then w else w₁) := by
  cases isOwned with
  | true => exact .unchanged
  | false => exact hmade rfl

end Outcome

/-! ## Moves that only change the scene -/

/-- A registry that is set up is as empty as it was before. -/
theorem keeps_found {own : Option Nat} {who : Nat → Nat → Prop} (s : Scene) : Scene.Keeps own who s
    { s with boards := s.boards ++ [{}], rosters := s.rosters ++ [{}] } := by
  intro b
  have hsame : (s.boards ++ [({} : Board)])[b]?.getD {} = s.boards[b]?.getD {} := by
    by_cases hlt : b < s.boards.length
    · rw [List.getElem?_append_left hlt]
    · rw [List.getElem?_append_right (Nat.le_of_not_lt hlt), List.getElem?_eq_none (Nat.le_of_not_lt hlt)]
      cases b - s.boards.length <;> rfl
  rw [Scene.boardAt, Scene.boardAt]
  exact hsame ▸ .refl _

/-- A move comes to nothing but what there is a case for. -/
theorem perform_outcome (chance : Chance) (w : World) (m : Move) :
    w.Outcome chance m (w.perform chance m) := by
  cases m with
  | step t =>
    show Outcome chance w (.step t) ((w.step chance t).getD w)
    cases hstep : w.step chance t with
    | none => exact .unchanged
    | some w' => exact .stepped hstep
  | abandon errand => exact .abandoned errand
  | begin e => exact .guarded fun hopening => .begun hopening
  | call provider token => exact .called provider token
  | probe core token => exact .guarded fun hhand => .probed hhand token
  | take board id =>
    show Outcome chance w (.take board id) (w.takeCore board id).2
    cases htake : w.takeCore board id with
    | mk found w' =>
      cases found with
      | none => exact takeCore_none w board id htake ▸ .unchanged
      | some core => exact .taken htake
  | giveUp stake => exact .givenUp stake
  | make handle number liveness => exact .made handle number liveness
  | offer lock core => exact .guarded fun hmay => .offered hmay.1 hmay.2.1
  | assignUnder snapshot request core =>
    exact .guarded fun hmay => .assignedUnder request hmay.1 hmay.2
  | dropSnapshot snapshot => exact .guarded fun hsnapshot => .droppedSnapshot hsnapshot
  | disposeCore core => exact .guarded fun hhand => .disposed hhand
  | dropCore core => exact .guarded fun hhand => .droppedCore hhand
  | dedicated board roster provider settings =>
    refine .guarded fun hparts => ?_
    split
    · exact .newDedicated hparts ‹_›
    · exact .unchanged
  | speculative board roster settings =>
    refine .guarded fun hparts => ?_
    split
    · exact .newSpeculative hparts ‹_›
    · exact .unchanged
  | broker board roster provider settings =>
    refine .guarded fun hparts => ?_
    split
    · exact .newBroker hparts ‹_›
    · exact .unchanged
  | attachService sink service => exact .attached sink service
  | collect errand => exact .collected errand
  -- from here on it is only the scene that changes
  | forget id => exact .of_aside rfl (w.scene.aside_report _ _ _) (Scene.boards_report _ _ _ _)
  | absorb => exact .of_aside rfl (Scene.aside_of_same (Nat.le_refl _) rfl rfl rfl rfl) rfl
  | advance ms =>
    exact .of_aside rfl ⟨⟨Nat.le_refl _, Nat.le_add_right _ ms, List.Subset.refl _⟩, rfl, rfl⟩ rfl
  | number => exact .of_aside rfl w.scene.aside_fresh rfl
  | fire token => exact .of_aside rfl (w.scene.aside_fire token) rfl
  | openGate gate permits => exact .of_aside rfl (w.scene.aside_setGate gate _) rfl
  | kill core => exact .of_aside rfl (w.scene.aside_killCore core) rfl
  | listen level => exact .of_aside rfl (Scene.aside_of_same (Nat.le_refl _) rfl rfl rfl rfl) rfl
  | remember limit => exact .of_aside rfl (Scene.aside_of_same (Nat.le_refl _) rfl rfl rfl rfl) rfl
  | release provider permits =>
    exact .of_aside rfl (w.scene.aside_modifyProvider provider fun _ _ => Scene.ref_setPermits _ _) rfl
  | close provider => exact .of_aside rfl (aside_close w.scene provider) rfl
  | attachBoard sink board =>
    exact .scenery rfl (.aside .refl (w.scene.aside_modifyBoard board (fun _ => rfl) fun _ => rfl))
      fun _ _ => w.scene.keeps_modifyChanges board (fun _ => rfl) fun _ => rfl
  | attachRoster sink roster =>
    exact .of_aside rfl (w.scene.aside_modifyRoster roster (fun _ => rfl) fun _ => rfl) rfl
  | found =>
    exact .scenery rfl ((performs_found w.scene).acts (show w.May _ .founded from trivial))
      fun _ _ => keeps_found w.scene
  | enlist handle id stock =>
    exact .scenery rfl ((performs_enlist w.scene _ rfl).acts (show w.May _ (.enlisted _) from trivial))
      fun _ _ => .of_boards rfl
  | add roster provider =>
    simp only [perform]
    split
    · rename_i found hfound
      have hprovider : found.ref ∈ w.scene.stage.providers :=
        List.mem_map_of_mem (List.mem_of_getElem? hfound)
      exact .scenery rfl (Scene.acts_addMember hprovider trivial) fun _ _ =>
        .of_boards (Scene.boards_addMember _ _ _)
    · exact .unchanged
  | remove roster id =>
    exact .scenery rfl (Scene.acts_removeMember fun _ => trivial) fun _ _ =>
      .of_boards (Scene.boards_removeMember _ _ _)
  | subscribe board =>
    exact .scenery rfl (Scene.acts_subscribeBoard trivial) fun _ _ =>
      w.scene.keeps_subscribeBoard board
  | receive board receiver =>
    exact .unowned fun hfree => .scenery rfl (Scene.acts_pollAllBoard hfree) fun _ _ =>
      w.scene.keeps_modifyChanges board (fun _ => rfl) fun _ => rfl
  | drain board receiver =>
    exact .unowned fun hfree => .scenery rfl (Scene.acts_drainBoard hfree) fun _ _ =>
      w.scene.keeps_drainBoard board receiver
  | unsubscribe board receiver =>
    exact .unowned fun hfree => .scenery rfl (Scene.acts_unsubscribeBoard hfree) fun _ _ =>
      w.scene.keeps_unsubscribeBoard board receiver
  | subscribeRoster roster =>
    exact .scenery rfl (Scene.acts_subscribeRoster trivial) fun _ _ =>
      .of_boards (Scene.boards_subscribeRoster _ roster)
  | receiveRoster roster receiver =>
    exact .unowned fun hfree => .scenery rfl (Scene.acts_pollAllRoster hfree) fun _ _ =>
      .of_boards rfl
  | unsubscribeRoster roster receiver =>
    exact .unowned fun hfree => .scenery rfl (Scene.acts_unsubscribeRoster hfree) fun _ _ =>
      .of_boards rfl

end CoreBroker.World
