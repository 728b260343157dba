import CoreBroker.Scenario.Begun
set_option autoImplicit false

/-!
# Steps about receivers

Receiving what a registry and a roster announce.  A new receiver that takes the name of an older one
takes its place.
-/

namespace CoreBroker.Scenario

namespace State

/-- How many receivers the registry with this index has. -/
def receiverCount (s : State) (b : Nat) : Nat :=
  ((s.scene.boards[b]?).map (·.changes.receiverCount)).getD 0

/-- How many receivers the roster with this index has. -/
def rosterReceiverCount (s : State) (r : Nat) : Nat :=
  ((s.scene.rosters[r]?).map (·.changes.receiverCount)).getD 0

/-- Begins to receive the counts of the registry in place of an older receiver of that name. -/
def subscribe (s : State) (name : String) : Begun × State :=
  let (receiver, scene) := s.scene.subscribeBoard s.board
  let scene := match s.receivers.lookup name with
    | some old => scene.unsubscribeBoard old.index old.receiver
    | none => scene
  let s := { s.withScene scene with receivers := rename s.receivers name ⟨s.board, receiver⟩ }
  s.finish (.number (s.receiverCount s.board))

/-- What a receiver of the registry has got. -/
def receive (s : State) (name : String) (onlyLast : Bool) : Begun × State :=
  match s.receivers.lookup name with
  | none => s.refuse
  | some ⟨b, receiver⟩ =>
    match s.scene.boards[b]? with
    | none => s.refuse
    | some board =>
      let (got, changes) := board.changes.pollAll receiver
      let scene := s.scene.modifyBoard b fun board => { board with changes }
      (s.withScene scene).finish
        (.received got.length (if onlyLast then got.getLast?.toList else got))

/-- Takes everything a receiver of the registry has got. -/
def drain (s : State) (name : String) : Begun × State :=
  match s.receivers.lookup name with
  | none => s.refuse
  | some ⟨b, receiver⟩ =>
    let isOpen := (s.scene.boards[b]?).any fun board => (board.changes.drain receiver).1
    (s.withScene (s.scene.drainBoard b receiver)).finish (.truth isOpen)

/-- Gives up a receiver of the registry. -/
def unsubscribe (s : State) (name : String) : Begun × State :=
  match s.receivers.lookup name with
  | none => s.refuse
  | some ⟨b, receiver⟩ =>
    let s := { s with receivers := forget s.receivers name }
    let s := s.withScene (s.scene.unsubscribeBoard b receiver)
    s.finish (.number (s.receiverCount s.board))

/-- Begins to receive the changes of the roster in place of an older receiver of that name. -/
def subscribeRoster (s : State) (name : String) : Begun × State :=
  let (receiver, scene) := s.scene.subscribeRoster s.roster
  let scene := match s.rosterReceivers.lookup name with
    | some old => scene.unsubscribeRoster old.index old.receiver
    | none => scene
  let s := { s.withScene scene with
             rosterReceivers := rename s.rosterReceivers name ⟨s.roster, receiver⟩ }
  s.finish (.number (s.rosterReceiverCount s.roster))

/-- What a receiver of the roster has got. -/
def receiveRoster (s : State) (name : String) : Begun × State :=
  match s.rosterReceivers.lookup name with
  | none => s.refuse
  | some ⟨r, receiver⟩ =>
    match s.scene.rosters[r]? with
    | none => s.refuse
    | some roster =>
      let (got, changes) := roster.changes.pollAll receiver
      let scene := s.scene.modifyRoster r fun roster => { roster with changes }
      (s.withScene scene).finish (.rosterReceived got)

/-- Gives up a receiver of the roster. -/
def unsubscribeRoster (s : State) (name : String) : Begun × State :=
  match s.rosterReceivers.lookup name with
  | none => s.refuse
  | some ⟨r, receiver⟩ =>
    let s := { s with rosterReceivers := forget s.rosterReceivers name }
    let s := s.withScene (s.scene.unsubscribeRoster r receiver)
    s.finish (.number (s.rosterReceiverCount s.roster))

end State

end CoreBroker.Scenario
