import CoreBroker.Scenario.Names
import CoreBroker.Scenario.Step
import CoreBroker.Scheduler
import CoreBroker.World.Client
set_option autoImplicit false

/-!
# The state of a scenario

The scheduler with its world, and what the names of the scenario stand for.
-/

namespace CoreBroker.Scenario

/-- A receiver of a registry or a roster, found by its index. -/
structure Receiver where
  index : Nat
  receiver : Nat
  deriving DecidableEq, Repr, Inhabited

/-- A handle of a request. -/
structure Handle where
  board : Nat
  id : Nat
  deriving DecidableEq, Repr, Inhabited

/-- A scenario under way. -/
structure State where
  scheduler : Scheduler
  /-- The registry and the roster that steps are about. -/
  board : Nat := 0
  roster : Nat := 0
  names : Names := []
  handles : List Handle := []
  tokens : List (String × Token) := []
  providers : List (String × Nat) := []
  services : List (String × Nat) := []
  receivers : List (String × Receiver) := []
  rosterReceivers : List (String × Receiver) := []
  /-- The reservations ever obtained, in the order of their names. -/
  locks : List Lock := []
  /-- The snapshots ever obtained, in the order of their names. -/
  snapshots : List Snapshot := []
  /-- The errands that are waited for, in the order of their names. -/
  pending : List (Nat × Nat) := []
  pendingCount : Nat := 0
  /-- How many log lines and events have been looked at. -/
  logged : Nat := 0
  journaled : Nat := 0
  isAnonymous : Bool := false
  /-- A provider with too many slots was asked for. -/
  isBroken : Bool := false

namespace State

instance : Inhabited State := ⟨{ scheduler := {} }⟩

/-- A scenario about to begin. -/
def start (listening : Option Log.Level) (isAnonymous : Bool) (traceLimit : Option Nat) : State :=
  let scene : Scene :=
    { boards := [{}], rosters := [{}], listening
      memory := .new 0 (traceLimit.getD Trace.defaultLimit) }
  { scheduler := { world := { scene } }, isAnonymous }

/-- The world. -/
def world (s : State) : World := s.scheduler.world

/-- The scene. -/
def scene (s : State) : Scene := s.world.scene

/-- The world was changed by the client. -/
def withWorld (s : State) (w : World) : State :=
  { s with scheduler := s.scheduler.resume .plain w }

/-- The scene was changed by the client. -/
def withScene (s : State) (scene : Scene) : State := s.withWorld (s.world.withScene scene)

/-- Replaces what a name stands for. -/
def rename {α : Type} (table : List (String × α)) (name : String) (a : α) : List (String × α) :=
  (name, a) :: table.filter (·.1 != name)

/-- Forgets a name. -/
def forget {α : Type} (table : List (String × α)) (name : String) : List (String × α) :=
  table.filter (·.1 != name)

/-- The token called `name`, made if there is none; without a name, a token nobody can fire. -/
def token (s : State) (name : Option String) : Token × State :=
  match name.bind fun n => s.tokens.lookup n with
  | some t => (t, s)
  | none =>
    let (number, scene) := s.scene.fresh
    let t : Token := { number }
    let s := s.withScene scene
    match name with
    | some name => (t, { s with tokens := rename s.tokens name t })
    | none => (t, s)

/-- The handle of the request called `name`. -/
def handle? (s : State) (name : String) : Option Handle :=
  (s.names.find? name).bind fun id => s.handles.find? (·.id == id)

/-- Gives up a handle. -/
def dropHandle (s : State) (h : Handle) : State := { s with handles := s.handles.filter (· != h) }

/-- The provider with the given handle and its serial. -/
def provider? (s : State) (handle : String) : Option (Nat × Provider) := do
  let p ← s.providers.lookup handle
  return (p, ← s.scene.providers[p]?)

/-- The service called `name` and its index. -/
def service? (s : State) (name : String) : Option (Nat × Service) := do
  let i ← s.services.lookup name
  return (i, ← s.world.services[i]?)

/-- The broker called `name` and its index. -/
def broker? (s : State) (name : String) : Option (Nat × Service) :=
  (s.service? name).filter (·.2.isBroker)

/-- The entry of a list that a name made of a letter and its index stands for. -/
def entry? {α : Type} (letter : Char) (entries : List α) (name : String) : Option α :=
  match name.toList with
  | c :: digits =>
    match (String.ofList digits).toNat? with
    | some n =>
      if c = letter ∧ String.singleton letter ++ toString n = name then entries[n]? else none
    | none => none
  | [] => none

/-- The reservation called `name`, held or not. -/
def lock? (s : State) (name : String) : Option Lock := entry? 'l' s.locks name

/-- Whether the client holds a reservation. -/
def holdsLock (s : State) (lock : Lock) : Bool :=
  s.world.locks.contains lock && !s.world.leaving.contains (.lock lock.serial)

/-- The reservation called `name`, if the client holds it. -/
def heldLock? (s : State) (name : String) : Option Lock := (s.lock? name).filter s.holdsLock

/-- The snapshot called `name`, held or not. -/
def snapshot? (s : State) (name : String) : Option Snapshot := entry? 's' s.snapshots name

/-- The snapshot called `name`, if the client holds it. -/
def heldSnapshot? (s : State) (name : String) : Option Snapshot :=
  (s.snapshot? name).filter s.world.snapshots.contains

/-- The core called `name` in the hands of the client. -/
def heldCore? (s : State) (name : String) : Option Core :=
  s.world.hand.find? (·.name == name)

/-- Takes a core out of the hands of the client. -/
def letGo (s : State) (core : Core) : State :=
  s.withWorld (s.world.letGo core)

/-- What new cores of the client are named after. -/
def testHandle : String := "test"

/-- The core that is offered; a held one leaves the hands of the client. -/
def offered? (s : State) : Offer → Option (Core × State)
  | .held name => (s.heldCore? name).map fun core => (core, s.letGo core)
  | .made number isAlive liveness =>
    let (core, scene) := s.scene.mint testHandle number testHandle liveness
    some (core, s.withScene (if isAlive then scene else scene.killCore core))

/-- Whether a snapshot is held on the current registry. -/
def isFrozen (s : State) : Bool :=
  match s.scene.boards[s.board]? with
  | some board =>
    match board.guard.holder with
    | some (.snapshot _) => true
    | _ => false
  | none => false

/-- The current registry. -/
def registry (s : State) : Registry Core :=
  ((s.scene.boards[s.board]?).map (·.registry)).getD {}

/-- The current roster. -/
def currentRoster (s : State) : Roster := (s.scene.rosters[s.roster]?).getD {}

end State

end CoreBroker.Scenario
