import CoreBroker.Channel
import CoreBroker.Clock
import CoreBroker.Guard
import CoreBroker.Log
import CoreBroker.Provider
import CoreBroker.Registry
import CoreBroker.Roster
import CoreBroker.Task
import CoreBroker.Token
import CoreBroker.Trace
set_option autoImplicit false

/-!
# The scene

Everything that tasks share: the clocks, what has fired, the registries with their guards, the
rosters, the providers, the gates, and the records of what has been going on.  A task changes the
scene in small steps, and between two steps of it any other task may take one.
-/

namespace CoreBroker

/-- Who may hold the guard of a registry: a task in the middle of an operation, or a snapshot that a
client keeps. -/
inductive Holder where
  | task (t : Task)
  | snapshot (serial : Nat)
  deriving DecidableEq, Repr, Inhabited

/-- A registry with its guard and the announcements of its counts. -/
structure Board where
  registry : Registry Core := {}
  guard : Guard Holder := {}
  changes : Channel Statistics := .new defaultChannelCapacity
  sink : Trace.Sink := .nowhere

instance : Inhabited Board := ⟨{}⟩

/-- Something that happened to a request for a core, to a core, to a registry or to a fulfiller. -/
inductive Event where
  /-- A provider was asked for a core. -/
  | called (handle : String)
  /-- It handed one out. -/
  | issued (handle : String)
  /-- It failed. -/
  | failed (handle : String)
  /-- It panicked. -/
  | panicked (handle : String)
  /-- It was no longer waited for. -/
  | abandoned (handle : String)
  /-- A core was told to dispose of itself; whoever told it may still have to wait until it has. -/
  | disposed (core : Core)
  /-- A core was made. -/
  | minted (core : Core)
  /-- The requests of a registry changed. -/
  | changed (board : Nat) (change : RegistryChange Core)
  /-- A core was passed to a request. -/
  | offered (board request : Nat) (core : Core)
  /-- A core that was passed to a request was handed back. -/
  | refused (board request : Nat) (core : Core)
  /-- A core that was passed to a request went with the call, which was given up. -/
  | lost (board request : Nat) (core : Core)
  /-- The shutdown of a fulfiller, whose loop is `loop`, returned. -/
  | stopped (loop : Task)
  deriving DecidableEq, Repr, Inhabited

/-- What tasks share. -/
structure Scene where
  clock : Clock := {}
  /-- The numbers of the tokens that were fired. -/
  fired : List Nat := []
  /-- The next number for anything that needs one of its own. -/
  nextSerial : Nat := 0
  /-- How many random choices have been made. -/
  draws : Nat := 0
  boards : List Board := []
  rosters : List Roster := []
  /-- The providers; the serial of a provider is its index. -/
  providers : List Provider := []
  gates : List (String × Permits) := []
  /-- Every core ever made, newest first. -/
  minted : List Core := []
  /-- The serials of the cores that no longer work. -/
  dead : List Nat := []
  /-- The most verbose level listened to. -/
  listening : Option Log.Level := none
  /-- The log, newest line first. -/
  log : List (Log.Line Nat) := []
  /-- The trace memory. -/
  memory : Trace.Memory Nat := .new 0 Trace.defaultLimit
  /-- What happened, newest first. -/
  journal : List Event := []
  /-- Tasks begun since the scheduler last looked, oldest first. -/
  spawned : List Task := []

namespace Scene

instance : Inhabited Scene := ⟨{}⟩

/-- The steady clock. -/
def now (s : Scene) : Nat := s.clock.steady

/-- A number that nothing else has. -/
def fresh (s : Scene) : Nat × Scene := (s.nextSerial, { s with nextSerial := s.nextSerial + 1 })

/-- Begins a task. -/
def spawn (s : Scene) (t : Task) : Scene := { s with spawned := s.spawned ++ [t] }

/-! ## Tokens -/

/-- Whether a token has fired. -/
def isCancelled (s : Scene) (t : Token) : Bool := t.isCancelled s.fired

/-- Fires a token. -/
def fire (s : Scene) (t : Token) : Scene := { s with fired := t.number :: s.fired }

/-! ## Records -/

/-- Writes a line into the log if anybody listens. -/
def report (s : Scene) (level : Log.Level) (message : Phrase Nat)
    (fields : List (String × Phrase Nat)) : Scene :=
  if Log.isHeard s.listening level then { s with log := ⟨level, message, fields⟩ :: s.log } else s

/-- Sends a trace line to a sink. -/
def trace (s : Scene) (sink : Trace.Sink) (source : String) (message : Phrase Nat) : Scene :=
  match sink with
  | .nowhere => s
  | .log => s.report .trace message [("source", .ofText source)]
  | .memory => { s with memory := s.memory.add s.now s.clock.stamp source message }

/-- Notes an event. -/
def note (s : Scene) (e : Event) : Scene := { s with journal := e :: s.journal }

/-! ## Parts -/

/-- Changes a registry. -/
def modifyBoard (s : Scene) (b : Nat) (f : Board → Board) : Scene :=
  { s with boards := s.boards.modify b f }

/-- Changes a roster. -/
def modifyRoster (s : Scene) (r : Nat) (f : Roster → Roster) : Scene :=
  { s with rosters := s.rosters.modify r f }

/-- Changes a provider. -/
def modifyProvider (s : Scene) (p : Nat) (f : Provider → Provider) : Scene :=
  { s with providers := s.providers.modify p f }

/-- The permits of a gate; a gate nobody has opened has none. -/
def gate (s : Scene) (name : String) : Permits := (s.gates.lookup name).getD { free := 0 }

/-- Replaces the permits of a gate. -/
def setGate (s : Scene) (name : String) (permits : Permits) : Scene :=
  { s with gates := (name, permits) :: s.gates.filter (·.1 != name) }

/-! ## Cores -/

/-- Makes a core. -/
def mint (s : Scene) (handle : String) (number : Nat) (providerId : String)
    (liveness : Liveness) : Core × Scene :=
  let (serial, s) := s.fresh
  let core : Core := { serial, handle, number, providerId, liveness }
  (core, { s with minted := core :: s.minted }.note (.minted core))

/-- A core stops working. -/
def killCore (s : Scene) (c : Core) : Scene := { s with dead := c.serial :: s.dead }

/-- Whether a core works now. -/
def isAlive (s : Scene) (c : Core) : Bool :=
  match c.liveness with
  | .unknown => true
  | .slot p => (s.providers[p]?).any fun provider => !provider.isClosed
  | .immediate | .gated _ => !s.dead.contains c.serial

/-- Gives the slot of a core back to its provider. -/
def giveBackSlot (s : Scene) (c : Core) : Scene :=
  match c.liveness with
  | .slot p => s.modifyProvider p fun provider => provider.setPermits provider.permits.giveBack
  | _ => s

/-- Disposes of a core. -/
def disposeCore (s : Scene) (c : Core) : Scene :=
  let s := s.note (.disposed c)
  match c.liveness with
  | .slot _ =>
    (s.report .trace "slot released"
      [("provider_id", .ofText c.providerId), ("core", .ofText (toString c.number))]).giveBackSlot c
  | _ => s

/-- Disposes of cores, one after the other. -/
def disposeCores (s : Scene) (cores : List Core) : Scene := cores.foldl disposeCore s

end Scene

end CoreBroker
