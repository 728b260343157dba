import CoreBroker.Scenario.State
set_option autoImplicit false

/-!
# Beginning steps

A step is either over as soon as it has been performed or has begun an errand, whose reply comes when
the tasks have been let run.  A step that refers to something that is not there, or that the client
does not hold, changes nothing.  Here are the ways in which a step ends, and the steps about clocks,
tokens, gates, cores in the hands of the client, traces and the log.
-/

namespace CoreBroker.Scenario

/-- What performing a step comes to before any task has run. -/
inductive Begun where
  | over (o : Outcome Nat)
  /-- An errand has been begun. -/
  | underWay (errand : Nat)
  | batch (xs : List Begun)
  deriving Repr, Inhabited

namespace State

/-! ## Ways to end a step -/

/-- The step refers to something that is not there. -/
def refuse (s : State) : Begun × State := (.over .badStep, s)

/-- The step is over. -/
def finish (s : State) (o : Outcome Nat) : Begun × State := (.over o, s)

/-- The step begins an errand. -/
def send (s : State) (e : Errand) : Begun × State :=
  let (serial, w) := s.world.send e
  (.underWay serial, s.withWorld w)

/-- The client gives something up. -/
def giveUp (s : State) (stake : Stake) : State := s.withWorld (s.world.giveUp stake)

/-! ## Clocks, tokens, gates -/

/-- Fires a token. -/
def fire (s : State) (name : String) : Begun × State :=
  let (t, s) := s.token (some name)
  (s.withScene (s.scene.fire t)).finish .nothing

/-- Both clocks move on. -/
def advance (s : State) (ms : Nat) : Begun × State :=
  { s with scheduler := s.scheduler.advance .plain ms }.finish .nothing

/-- Puts permits into a gate. -/
def openGate (s : State) (gate : String) (permits : Nat) : Begun × State :=
  (s.withScene (s.scene.setGate gate ((s.scene.gate gate).giveBackMany permits))).finish .nothing

/-! ## Cores in the hands of the client -/

/-- Disposes of a core. -/
def disposeCore (s : State) (name : String) : Begun × State :=
  match s.heldCore? name with
  | none => s.refuse
  | some core =>
    let s := s.letGo core
    (s.withScene (s.scene.disposeCore core)).finish .nothing

/-- Lets a core go without disposing of it. -/
def dropCore (s : State) (name : String) : Begun × State :=
  match s.heldCore? name with
  | none => s.finish (.truth false)
  | some core =>
    let s := s.letGo core
    (s.withScene (s.scene.giveBackSlot core)).finish (.truth true)

/-- Whether a core can stop working by itself. -/
def isMortal (core : Core) : Bool :=
  match core.liveness with
  | .slot _ => false
  | _ => true

/-- The core called `name` stops working, wherever it is. -/
def kill (s : State) (name : String) : Begun × State :=
  match s.scene.minted.find? fun core => core.name == name && isMortal core with
  | none => s.refuse
  | some core => (s.withScene (s.scene.killCore core)).finish .nothing

/-- Asks a core whether it works. -/
def probe (s : State) (core : Offer) (token : Option String) : Begun × State :=
  match s.offered? core with
  | none => s.refuse
  | some (core, s) =>
    let (t, s) := s.token token
    let (ticket, scene) := s.scene.fresh
    (s.withScene scene).send (.probe core ticket t)

/-! ## Traces and log -/

/-- The trace memory. -/
def trace (s : State) (isSorted : Bool) : Begun × State :=
  s.finish (.traced (s.scene.memory.toList.map (·.phrase)) isSorted)

/-- The log lines since the last look. -/
def logs (s : State) (isSorted : Bool) : Begun × State :=
  let lines := (s.scene.log.take (s.scene.log.length - s.logged)).reverse
  { s with logged := s.scene.log.length }.finish
    (.logged (lines.map Log.Line.phrase) isSorted)

end State

end CoreBroker.Scenario
