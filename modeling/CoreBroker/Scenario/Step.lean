import CoreBroker.Errand
set_option autoImplicit false

/-!
# Steps of a scenario

A scenario is a list of steps that a client takes against one registry, one roster, and the providers
and fulfillers it sets up.  Everything a client can refer to has a name.
-/

namespace CoreBroker.Scenario

/-- A core that the client offers: one it holds, or a new one with the given number. -/
inductive Offer where
  | held (name : String)
  | made (number : Nat) (isAlive : Bool) (liveness : Liveness)
  deriving DecidableEq, Repr, Inhabited

/-- A part of the scenario that sends trace lines. -/
inductive Part where
  | registry
  | roster
  | service (name : String)
  deriving DecidableEq, Repr, Inhabited

/-- A step. -/
inductive Step where
  /-- Start all steps and let tasks run once. -/
  | batch (steps : List Step)
  | idle
  | advance (ms : Nat)
  | fire (token : String)
  | openGate (gate : String) (permits : Nat)
  /-- The names of the cores the client holds. -/
  | hand
  | disposeCore (name : String)
  | dropCore (name : String)
  | kill (name : String)
  | probe (core : Offer) (token : Option String)
  | attach (part : Part) (sink : Trace.Sink)
  | trace (isSorted : Bool)
  | logs (isSorted : Bool)
  | create (preference : Preference)
  | createMany (preference : Preference) (count : Nat)
  | reserve (preference : Preference) (token : Option String) (broker : Option String)
  | wait (request : String) (token : Option String) (takes : Bool)
  | take (request : String)
  | info (request : String)
  | dispose (request : String)
  | disposeAll
  | drop (request : String)
  /-- Drop a handle where no task can be begun to clean up. -/
  | dropOutside (request : String)
  | ask (query : Query)
  | lockInfo (lock : String)
  | lockAssign (lock : String) (core : Offer)
  | lockDrop (lock : String)
  /-- Assign under one snapshot to an entry of the same or another one. -/
  | snapshotAssign (snapshot : String) (index : Nat) (core : Offer) (origin : Option String)
  | snapshotDrop (snapshot : String)
  | subscribe (name : String)
  | receive (name : String) (onlyLast : Bool)
  | drain (name : String)
  | unsubscribe (name : String)
  | provider (handle id : String) (plans : List Plan)
  | release (handle : String) (permits : Nat)
  | slotProvider (handle id : String) (slots : Nat)
  /-- A provider that stands for this machine. -/
  | localProvider (handle : String)
  | slots (handle : String) (withoutTotal : Bool)
  | close (handle : String) (withoutTotal : Bool)
  | requestCore (handle : String) (token : Option String)
  | add (handle : String) (broker : Option String)
  | remove (id : String) (broker : Option String)
  | has (id : String)
  | providers
  | subscribeRoster (name : String)
  | receiveRoster (name : String)
  | unsubscribeRoster (name : String)
  /-- Set up a dedicated fulfiller; the settings are absent if they could not be read. -/
  | dedicated (name handle : String) (settings : Option DedicatedSettings)
  | speculative (name : String) (settings : Option SpeculativeSettings)
  | broker (name : String) (settings : Option BrokerSettings) (handle : Option String)
      (isFresh isTraced : Bool)
  | states (name : String)
  | brokerCounts (name : String)
  | shutDown (name : String)
  | dropService (name : String)
  | unreadable
  deriving Repr, Inhabited

end CoreBroker.Scenario
