import CoreBroker.Scenario.Begun
set_option autoImplicit false

/-!
# Steps about requests

Creating, waiting for and disposing of requests, and the reservations and snapshots through which a
client assigns cores to them.
-/

namespace CoreBroker.Scenario

namespace State

/-- Creates requests, one after the other. -/
def createMany (s : State) (preference : Preference) (count : Nat) : Begun × State :=
  if count = 0 then s.finish (.requests [])
  else s.send (.create s.board preference count [] none true)

/-- Reserves a core, from a broker or straight from the registry. -/
def reserve (s : State) (preference : Preference) (token broker : Option String) :
    Begun × State :=
  let go (board : Nat) (service : Option Nat) : Begun × State :=
    let (t, s) := s.token token
    s.send (.reserve board preference t service .drafting)
  match broker with
  | none => go s.board none
  | some name =>
    match s.broker? name with
    | none => s.refuse
    | some (i, service) => go service.board (some i)

/-- Waits for a request. -/
def wait (s : State) (request : String) (token : Option String) (takes : Bool) : Begun × State :=
  match s.handle? request with
  | none => s.refuse
  | some h =>
    let (t, s) := s.token token
    s.send (.wait h.board h.id t takes)

/-- Takes the core of a request. -/
def take (s : State) (request : String) : Begun × State :=
  match s.handle? request with
  | none => s.refuse
  | some h =>
    match s.world.takeCore h.board h.id with
    | (some core, w) => (s.withWorld w).finish (.taken (some core.name))
    | (none, _) => s.finish (.taken none)

/-- Describes a request. -/
def info (s : State) (request : String) : Begun × State :=
  match (s.handle? request).bind fun h => s.scene.request? h.board h.id with
  | none => s.refuse
  | some r =>
    s.finish (.info
      { id := r.id, preference := r.preference, isFulfilled := r.isAssigned
        core := r.core.map fun core => (core.name, core.providerId)
        age := r.age s.scene.now, createdWall := r.createdWall, description := r.description })

/-- What stands for a handle of a request. -/
def stake (h : Handle) : Stake := .request h.board h.id

/-- Disposes of a request, unless somebody waits for it. -/
def dispose (s : State) (request : String) : Begun × State :=
  match s.handle? request with
  | none => s.refuse
  | some h =>
    if s.world.isUsed (stake h) then s.finish .busy
    else (s.dropHandle h).send (.dispose h.board h.id)

/-- The name of the request of a handle. -/
def nameOf (s : State) (h : Handle) : String := Names.nameAt ((s.names.idxOf? h.id).getD 0)

/-- Disposes of all requests whose handles the client holds and nobody waits for, in the order of
their names. -/
def disposeAll (s : State) : Begun × State :=
  let (busy, handles) := s.handles.partition fun h => s.world.isUsed (stake h)
  let handles := handles.mergeSort fun a b => !(s.nameOf b < s.nameOf a)
  { s with handles := busy }.send 
    (.disposeAll (handles.map fun (h : Handle) => (h.board, h.id)) 0)

/-- Drops the handle of a request. -/
def drop (s : State) (request : String) : Begun × State :=
  match s.handle? request with
  | none => s.refuse
  | some h => ((s.dropHandle h).giveUp (stake h)).finish .nothing

/-- Drops the handle of a request where no task can be begun: nothing cleans up after it. -/
def dropOutside (s : State) (request : String) : Begun × State :=
  match s.handle? request with
  | none => s.refuse
  | some h =>
    let s := s.dropHandle h
    if s.world.isUsed (stake h) then (s.giveUp (stake h)).finish .nothing
    else
      (s.withScene (s.scene.report .warn
        "request dropped outside a tokio runtime, registry cleanup skipped"
        [("request_id", .naming h.id)])).finish .nothing

/-! ## Reservations and snapshots -/

/-- Describes a reserved request. -/
def lockInfo (s : State) (name : String) : Begun × State :=
  match (s.heldLock? name).bind fun lock => s.scene.request? lock.board lock.request with
  | none => s.refuse
  | some r => s.finish (.lockInfo r.id r.preference (r.age s.scene.now))

/-- Assigns a core to a reserved request. -/
def lockAssign (s : State) (name : String) (core : Offer) : Begun × State :=
  match s.heldLock? name with
  | none => s.refuse
  | some lock =>
    match s.offered? core with
    | none => s.refuse
    | some (core, s) =>
      let (serial, w) := s.world.offer lock core
      (.underWay serial, s.withWorld w)

/-- Gives a reservation up. -/
def lockDrop (s : State) (name : String) : Begun × State :=
  match s.lock? name with
  | none => s.refuse
  | some lock =>
    if s.holdsLock lock then (s.giveUp (.lock lock.serial)).finish (.truth true)
    else s.finish (.truth false)

/-- Assigns a core to an entry of a snapshot under a snapshot that is held. -/
def snapshotAssign (s : State) (name : String) (index : Nat) (core : Offer)
    (origin : Option String) : Begun × State :=
  match s.heldSnapshot? name, s.snapshot? (origin.getD name) with
  | some held, some source =>
    match source.requests[index]?, s.offered? core with
    | some request, some (core, s) =>
      match s.world.assignUnder held request core with
      | (none, w) => (s.withWorld w).finish .accepted
      | (some reason, w) => (s.withWorld w).finish (.refused core.name reason)
    | _, _ => s.refuse
  | _, _ => s.refuse

/-- Gives a snapshot up, and the guard of the registry with it. -/
def snapshotDrop (s : State) (name : String) : Begun × State :=
  match s.snapshot? name with
  | none => s.refuse
  | some snapshot =>
    if s.world.snapshots.contains snapshot then
      (s.withWorld (s.world.dropSnapshot snapshot)).finish (.truth true)
    else s.finish (.truth false)

end State

end CoreBroker.Scenario
