import CoreBroker.Errand
set_option autoImplicit false

/-!
# The world

The scene together with all tasks and with what the client holds, and what follows when the client
gives something up.  What an errand still uses is given up once the errand is over.
-/

namespace CoreBroker

/-- Everything there is. -/
structure World where
  scene : Scene := {}
  dedicated : List Dedicated := []
  speculative : List Speculative := []
  /-- The errands under way, oldest first. -/
  errands : List (Nat × Errand) := []
  /-- What errands have brought back and the client has not looked at. -/
  replies : List (Nat × Reply) := []
  services : List Service := []
  /-- The reservations the client holds. -/
  locks : List Lock := []
  /-- The snapshots the client holds. -/
  snapshots : List Snapshot := []
  /-- The cores the client holds. -/
  hand : List Core := []
  /-- What the client has given up while an errand still uses it. -/
  leaving : List Stake := []

namespace World

instance : Inhabited World := ⟨{}⟩

/-- Replaces the scene. -/
def withScene (w : World) (scene : Scene) : World := { w with scene }

/-! ## Giving things up -/

/-- Begins an errand. -/
def send (w : World) (e : Errand) : Nat × World :=
  let (serial, scene) := w.scene.fresh
  (serial, { w with scene := scene.spawn (.errand serial), errands := w.errands ++ [(serial, e)] })

/-- Fires the shutdown of a dedicated fulfiller. -/
def stopDedicated (w : World) (i : Nat) : World :=
  match w.dedicated[i]? with
  | some f => { w with scene := w.scene.fire f.shutdown }
  | none => w

/-- Fires the shutdown of a speculative fulfiller. -/
def stopSpeculative (w : World) (i : Nat) : World :=
  match w.speculative[i]? with
  | some f => { w with scene := w.scene.fire f.shutdown }
  | none => w

/-- A dedicated fulfiller is given up without shutting it down properly. -/
def dropDedicated (w : World) (i : Nat) : World :=
  match w.dedicated[i]? with
  | some f =>
    let scene := (w.scene.fire f.shutdown).report .debug
      "single-source fulfiller dropped without shutdown, control loop detached" [f.providerField]
    { w with scene }
  | none => w

/-- A speculative fulfiller is given up without shutting it down properly. -/
def dropSpeculative (w : World) (i : Nat) : World :=
  match w.speculative[i]? with
  | some f =>
    let scene := (w.scene.fire f.shutdown).report .debug
      "multi-source fulfiller dropped without shutdown, cleanup continues in background" []
    { w with scene }
  | none => w

/-- What follows when something is given up that nobody uses any more. -/
def relinquish (w : World) : Stake → World
  | .request board id => (w.send (.cleanUp board id)).2
  | .lock serial =>
    match w.locks.find? (·.serial == serial) with
    | some lock =>
      { w with scene := w.scene.unreserveRequest lock.board lock.request
               locks := w.locks.filter (·.serial != serial) }
    | none => w
  | .service index =>
    match w.services[index]? with
    | some service =>
      let w := service.dedicated.toList.foldl dropDedicated w
      service.speculative.toList.foldl dropSpeculative w
    | none => w

/-- Whether an errand uses something. -/
def isUsed (w : World) (stake : Stake) : Bool :=
  w.errands.any fun (_, e) => e.stake? == some stake

/-- The client gives something up; if an errand uses it, that takes effect when the errand is
over. -/
def giveUp (w : World) (stake : Stake) : World :=
  if w.isUsed stake then { w with leaving := w.leaving ++ [stake] } else w.relinquish stake

end World

end CoreBroker
