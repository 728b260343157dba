import CoreBroker.Proofs.Scene.Stage
import CoreBroker.World.Abandonment
import CoreBroker.World.Client
import CoreBroker.World.Setup
import CoreBroker.World.Step
set_option autoImplicit false

/-!
# Runs

A run is a list of moves: a task takes a step, or the client does something.  A move that cannot be made
leaves the world as it is, so every list of moves is a run, and a law about all lists of moves is a law
about every order in which tasks and the client can act.  What a run adds to the story is kept together
with the task that did it.
-/

namespace CoreBroker

/-- What can happen next. -/
inductive Move where
  /-- A task takes a step. -/
  | step (t : Task)
  /-- The client abandons an errand. -/
  | abandon (errand : Nat)
  /-- The client begins an errand for which it needs nothing. -/
  | begin (e : Errand)
  /-- The client asks a provider for a core. -/
  | call (provider : Nat) (token : Token)
  /-- The client asks a core in its hands whether it works. -/
  | probe (core : Core) (token : Token)
  /-- The client takes the core of a request. -/
  | take (board id : Nat)
  /-- The client gives up a request, a reservation or a service. -/
  | giveUp (stake : Stake)
  /-- The client drops a request where no task can be begun to clean up after it. -/
  | forget (id : Nat)
  /-- The client makes a core of its own. -/
  | make (handle : String) (number : Nat) (liveness : Liveness)
  /-- The client passes a core to a request that it has reserved. -/
  | offer (lock : Lock) (core : Core)
  /-- The client passes a core to a request under a snapshot. -/
  | assignUnder (snapshot : Snapshot) (request : Nat) (core : Core)
  | dropSnapshot (snapshot : Snapshot)
  | disposeCore (core : Core)
  /-- The client lets a core go without disposing of it. -/
  | dropCore (core : Core)
  | dedicated (board roster : Nat) (provider : ProviderRef) (settings : DedicatedSettings)
  | speculative (board roster : Nat) (settings : SpeculativeSettings)
  | broker (board roster : Nat) (provider : Option ProviderRef) (settings : BrokerSettings)
  | attachBoard (sink : Trace.Sink) (board : Nat)
  | attachRoster (sink : Trace.Sink) (roster : Nat)
  | attachService (sink : Trace.Sink) (service : Service)
  /-- The client looks at what an errand brought back. -/
  | collect (errand : Nat)
  /-- The scheduler takes notice of the tasks that were begun. -/
  | absorb
  | advance (ms : Nat)
  /-- A number is given out, for a token of the client. -/
  | number
  | fire (token : Token)
  | openGate (gate : String) (permits : Nat)
  | kill (core : Core)
  | listen (level : Option Log.Level)
  /-- The trace memory is set up anew. -/
  | remember (limit : Nat)
  /-- A registry and a roster are set up. -/
  | found
  /-- A provider is set up. -/
  | enlist (handle id : String) (stock : Stock)
  | release (provider permits : Nat)
  | close (provider : Nat)
  | add (roster provider : Nat)
  | remove (roster : Nat) (id : String)
  | subscribe (board : Nat)
  | receive (board receiver : Nat)
  | drain (board receiver : Nat)
  | unsubscribe (board receiver : Nat)
  | subscribeRoster (roster : Nat)
  | receiveRoster (roster receiver : Nat)
  | unsubscribeRoster (roster receiver : Nat)

namespace Errand

/-- An errand that the client may begin, with nothing done yet.  Those that need a core or a call of
the client are begun by moves of their own. -/
def isOpening : Errand → Bool
  | .create _ _ _ made draft _ => made.isEmpty && draft.isNone
  | .reserve _ _ _ _ stage => stage == .drafting
  | .disposeAll _ count => count == 0
  | .wait _ _ _ _ | .dispose _ _ | .ask _ _ _ | .sight _ _ => true
  | .shutDown _ isBegun parts => !isBegun && parts.all fun
    | .dedicated _ isTold | .speculative _ isTold => !isTold
  | .cleanUp _ _ | .disposing _ _ _ | .assign _ _ | .probe _ _ _ | .call _ => false

end Errand

namespace World

/-- A receiver of a registry that belongs to a fulfiller. -/
def isOwned (w : World) (board receiver : Nat) : Bool :=
  w.dedicated.any (fun f => f.board == board && f.receiver == receiver)
    || w.speculative.any fun f => f.board == board && f.requestReceiver == receiver

/-- A receiver of a roster that belongs to a fulfiller. -/
def isOwnedOfRoster (w : World) (roster receiver : Nat) : Bool :=
  w.speculative.any fun f => f.roster == roster && f.rosterReceiver == receiver

/-- There is such a registry and such a roster. -/
def hasParts (w : World) (board roster : Nat) : Bool :=
  board < w.scene.boards.length && roster < w.scene.rosters.length

variable (chance : Chance)

/-- The world after a move; a move that cannot be made leaves the world as it is. -/
def perform (w : World) : Move → World
  | .step t => (w.step chance t).getD w
  | .abandon errand => w.abandon errand
  | .begin e => if e.isOpening then (w.send e).2 else w
  | .call provider token =>
    let (call, scene) := w.scene.newCall provider token
    ((w.withScene scene).send (.call call)).2
  | .probe core token =>
    if core ∈ w.hand then
      let (ticket, scene) := w.scene.fresh
      (((w.letGo core).withScene scene).send (.probe core ticket token)).2
    else w
  | .take board id => (w.takeCore board id).2
  | .giveUp stake => w.giveUp stake
  | .forget id => w.withScene (w.scene.report .warn
      "request dropped outside a tokio runtime, registry cleanup skipped"
      [("request_id", .naming id)])
  | .make handle number liveness =>
    let (core, scene) := w.scene.mint handle number handle liveness
    (w.withScene scene).receiveCore core
  | .offer lock core =>
    if core ∈ w.hand ∧ lock ∈ w.locks ∧ .lock lock.serial ∉ w.leaving then
      ((w.letGo core).offer lock core).2
    else w
  | .assignUnder snapshot request core =>
    if core ∈ w.hand ∧ snapshot ∈ w.snapshots then
      ((w.letGo core).assignUnder snapshot request core).2
    else w
  | .dropSnapshot snapshot => if snapshot ∈ w.snapshots then w.dropSnapshot snapshot else w
  | .disposeCore core =>
    if core ∈ w.hand then (w.letGo core).withScene (w.scene.disposeCore core) else w
  | .dropCore core =>
    if core ∈ w.hand then (w.letGo core).withScene (w.scene.giveBackSlot core) else w
  | .dedicated board roster provider settings =>
    if w.hasParts board roster then
      match w.newDedicated board roster provider settings with
      | .ok (_, w) => w
      | .error _ => w
    else w
  | .speculative board roster settings =>
    if w.hasParts board roster then
      match w.newSpeculative board roster settings with
      | .ok (_, w) => w
      | .error _ => w
    else w
  | .broker board roster provider settings =>
    if w.hasParts board roster then
      match w.newBroker board roster provider settings with
      | .ok (service, w) => (w.addService service).2
      | .error _ => w
    else w
  | .attachBoard sink board => w.attachBoard sink board
  | .attachRoster sink roster => w.attachRoster sink roster
  | .attachService sink service => w.attachService sink service
  | .collect errand => { w with replies := w.replies.filter (·.1 != errand) }
  | .absorb => w.withScene { w.scene with spawned := [] }
  | .advance ms => w.withScene { w.scene with clock := w.scene.clock.advance ms }
  | .number => w.withScene w.scene.fresh.2
  | .fire token => w.withScene (w.scene.fire token)
  | .openGate gate permits =>
    w.withScene (w.scene.setGate gate ((w.scene.gate gate).giveBackMany permits))
  | .kill core => w.withScene (w.scene.killCore core)
  | .listen level => w.withScene { w.scene with listening := level }
  | .remember limit => w.withScene { w.scene with memory := .new w.scene.now limit }
  | .found => w.withScene
      { w.scene with boards := w.scene.boards ++ [{}], rosters := w.scene.rosters ++ [{}] }
  | .enlist handle id stock =>
    let provider : Provider := { ref := ⟨w.scene.providers.length, id⟩, handle, stock }
    w.withScene { w.scene with providers := w.scene.providers ++ [provider] }
  | .release provider permits => w.withScene (w.scene.modifyProvider provider fun found =>
      found.setPermits (found.permits.giveBackMany permits))
  | .close provider => w.withScene (w.scene.modifyProvider provider (·.close))
  | .add roster provider =>
    match w.scene.providers[provider]? with
    | some found => w.withScene (w.scene.addMember roster found.ref).2
    | none => w
  | .remove roster id => w.withScene (w.scene.removeMember roster id).2
  | .subscribe board => w.withScene (w.scene.subscribeBoard board).2
  | .receive board receiver =>
    if w.isOwned board receiver then w
    else w.withScene (w.scene.modifyBoard board fun found =>
      { found with changes := (found.changes.pollAll receiver).2 })
  | .drain board receiver =>
    if w.isOwned board receiver then w else w.withScene (w.scene.drainBoard board receiver)
  | .unsubscribe board receiver =>
    if w.isOwned board receiver then w else w.withScene (w.scene.unsubscribeBoard board receiver)
  | .subscribeRoster roster => w.withScene (w.scene.subscribeRoster roster).2
  | .receiveRoster roster receiver =>
    if w.isOwnedOfRoster roster receiver then w
    else w.withScene (w.scene.modifyRoster roster fun found =>
      { found with changes := (found.changes.pollAll receiver).2 })
  | .unsubscribeRoster roster receiver =>
    if w.isOwnedOfRoster roster receiver then w
    else w.withScene (w.scene.unsubscribeRoster roster receiver)

/-- What the story of one world has more than that of an earlier one, newest first. -/
def news (earlier w : World) : List Event :=
  w.scene.story.take (w.scene.story.length - earlier.scene.story.length)

theorem news_of_story {w w' : World} {events : List Event}
    (hstory : w'.scene.story = events ++ w.scene.story) : w.news w' = events := by
  rw [news, hstory, List.length_append, Nat.add_sub_cancel]
  exact List.take_left

end World

/-- The task that makes a move; the client makes the others itself. -/
def Move.actor : Move → Option Task
  | .step t => some t
  | .abandon errand => some (.errand errand)
  | _ => none

/-- An event and the task that did it, or the client. -/
structure Deed where
  actor : Option Task
  event : Event
  deriving DecidableEq, Repr

/-- The world that a run has come to, and what was done on the way, newest first. -/
structure Chronicle where
  world : World := {}
  deeds : List Deed := []

namespace Chronicle

/-- One more move. -/
def next (chance : Chance) (c : Chronicle) (m : Move) : Chronicle where
  world := c.world.perform chance m
  deeds := (c.world.news (c.world.perform chance m)).map (⟨m.actor, ·⟩) ++ c.deeds

end Chronicle

/-- What a run comes to that begins with nothing at all. -/
def run (chance : Chance) (moves : List Move) : Chronicle :=
  moves.foldl (Chronicle.next chance) {}

/-- A run goes on from where its beginning came to. -/
theorem run_append (chance : Chance) (moves later : List Move) :
    run chance (moves ++ later) = later.foldl (Chronicle.next chance) (run chance moves) :=
  List.foldl_append

theorem run_concat (chance : Chance) (moves : List Move) (m : Move) :
    (run chance (moves ++ [m])).world = (run chance moves).world.perform chance m := by
  rw [run_append]
  rfl

end CoreBroker
