import CoreBroker.Dedicated
import CoreBroker.Speculative.Loop
set_option autoImplicit false

/-!
# Errands

What a client wants done and may have to wait for: creating, reserving and disposing of requests,
waiting for a core, questions to a registry, probes, calls, and shutting fulfillers down.
-/

namespace CoreBroker

/-- A request reserved for a client; at most one to a request. -/
structure Lock where
  serial : Nat
  board : Nat
  request : Nat
  deriving DecidableEq, Repr, Inhabited

/-- A list of waiting requests that a client keeps together with the guard of the registry. -/
structure Snapshot where
  serial : Nat
  board : Nat
  requests : List Nat
  deriving DecidableEq, Repr, Inhabited

/-- A fulfiller, or a broker with up to two of them, that a client has set up. -/
structure Service where
  board : Nat
  roster : Nat
  dedicated : Option Nat := none
  speculative : Option Nat := none
  isBroker : Bool := false
  deriving DecidableEq, Repr, Inhabited

/-- A question to a registry, put under its guard. -/
inductive Query where
  | statistics
  /-- The counts alone. -/
  | counts
  | summaries
  | count (c : Constraint)
  /-- Reserve the next request. -/
  | next (includeLocal : Bool) (remoteDelay : Option Nat)
  | hasNext (includeLocal : Bool) (remoteDelay : Option Nat)
  | snapshot (c : Constraint)
  deriving DecidableEq, Repr, Inhabited

/-- Where the reservation of a core stands. -/
inductive ReserveStage where
  | drafting
  | entering (draft : Request Core)
  | waiting (id : Nat)
  | abandoning (id : Nat) (reason : Fault Nat)
  /-- The request is off the list, and the core that it still had is being disposed of. -/
  | disposing (id : Nat) (reason : Fault Nat)
  deriving DecidableEq, Repr

/-- What is left to do when the core of a request has been disposed of. -/
inductive Remainder where
  /-- The client is told. -/
  | reply
  /-- Other requests are disposed of; `count` were before them. -/
  | others (requests : List (Nat × Nat)) (count : Nat)
  /-- Nothing, and nobody waits. -/
  | nothing
  deriving DecidableEq, Repr

/-- A fulfiller that is to be shut down, and whether it has been told. -/
inductive Stopping where
  | dedicated (index : Nat) (isTold : Bool)
  | speculative (index : Nat) (isTold : Bool)
  deriving DecidableEq, Repr, Inhabited

/-- An errand. -/
inductive Errand where
  /-- Create requests, one after the other; `draft` has been made but not entered. -/
  | create (board : Nat) (preference : Preference) (left : Nat) (made : List Nat)
      (draft : Option (Request Core)) (isMany : Bool)
  /-- Create a request and wait for its core. -/
  | reserve (board : Nat) (preference : Preference) (token : Token) (service : Option Nat)
      (stage : ReserveStage)
  /-- Wait until a request has a core, and take it if `takes` says so. -/
  | wait (board id : Nat) (token : Token) (takes : Bool)
  /-- Dispose of a request. -/
  | dispose (board id : Nat)
  /-- Dispose of requests, each in its registry, one after the other. -/
  | disposeAll (requests : List (Nat × Nat)) (count : Nat)
  /-- Clean up after a request whose handle was dropped. -/
  | cleanUp (board id : Nat)
  /-- Wait until the core that a request still had has been disposed of; the request is off the list. -/
  | disposing (board id : Nat) (left : Remainder)
  | ask (board : Nat) (query : Query) (service : Option Nat)
  /-- Assign a core to a reserved request. -/
  | assign (lock : Lock) (core : Core)
  | probe (core : Core) (ticket : Nat) (token : Token)
  | call (call : Call)
  /-- Look at the obtainments of a speculative fulfiller. -/
  | sight (speculative : Nat) (service : Nat)
  /-- Shut fulfillers down, one after the other. -/
  | shutDown (isBroker isBegun : Bool) (parts : List Stopping)
  deriving Repr

/-- What an errand brings back. -/
inductive Reply where
  | created (board id : Nat)
  | createdMany (board : Nat) (ids : List Nat)
  | fulfilled
  | core (c : Core)
  | done
  | number (n : Nat)
  | statistics (s : Statistics)
  | counts (s : Statistics)
  | summaries (xs : List (Summary Nat))
  | truth (b : Bool)
  | reserved (lock : Lock)
  | nothing
  | snapshot (s : Snapshot)
  | accepted
  | refused (r : Refusal Core Nat)
  | fault (f : Fault Nat)
  | failed (chain : List String)
  | panicked
  | sightings (xs : List Sighting)
  | down
  deriving Repr

/-- What a client can give up while an errand still uses it. -/
inductive Stake where
  | request (board id : Nat)
  | lock (serial : Nat)
  | service (index : Nat)
  deriving DecidableEq, Repr, Inhabited

namespace Errand

/-- What an errand uses until it is over. -/
def stake? : Errand → Option Stake
  | .wait board id _ _ => some (.request board id)
  | .assign lock _ => some (.lock lock.serial)
  | .reserve _ _ _ service _ => service.map .service
  | .ask _ _ service => service.map .service
  | .sight _ service => some (.service service)
  | _ => none

/-- When an errand wakes up by itself. -/
def deadline : Errand → Option Nat
  | .call c => Scene.callDeadline c
  | _ => none

end Errand

end CoreBroker
