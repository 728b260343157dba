import CoreBroker.World.Errands
set_option autoImplicit false

/-!
# What a client does with its cores

Passing cores to requests, through a reservation or under a snapshot, and giving a snapshot up.  A
core that is passed leaves the hands of the client at once; a refused one comes back.
-/

namespace CoreBroker.World

/-- Takes a core out of the hands of the client. -/
def letGo (w : World) (core : Core) : World := { w with hand := w.hand.filter (· != core) }

/-- Begins to assign a core to a reserved request. -/
def offer (w : World) (lock : Lock) (core : Core) : Nat × World :=
  (w.withScene (w.scene.note (.offered lock.board lock.request core))).send (.assign lock core)

/-- Assigns a core to a request under a snapshot that is held, or says why that cannot be. -/
def assignUnder (w : World) (held : Snapshot) (request : Nat) (core : Core) :
    Option (Fault Nat) × World :=
  let scene := w.scene.note (.offered held.board request core)
  match scene.assignCore held.board request core with
  | .ok scene => (none, w.withScene scene)
  | .error reason =>
    (some reason, (w.withScene (scene.note (.refused held.board request core))).receiveCore core)

/-- Gives a snapshot up, and the guard of the registry with it. -/
def dropSnapshot (w : World) (snapshot : Snapshot) : World :=
  let w := w.leave snapshot.board
  { w with snapshots := w.snapshots.filter (· != snapshot) }

end CoreBroker.World
