import CoreBroker.Errand
set_option autoImplicit false

/-!
# Outcomes of steps

What a step gives, with requests known by an `ι`.  Where the names of providers and cores depend on
chance they can be hidden.
-/

namespace CoreBroker.Scenario

/-- A description of a request for the client that holds it. -/
structure Info (ι : Type) where
  id : ι
  preference : Preference
  isFulfilled : Bool
  /-- The name of the core and the id of its provider. -/
  core : Option (String × String)
  age : Nat
  createdWall : Nat
  description : Phrase ι
  deriving Repr

/-- What a step gives. -/
inductive Outcome (ι : Type) where
  | nothing
  | truth (b : Bool)
  | number (n : Nat)
  /-- The names of the cores in the hands of the client. -/
  | hand (names : List String)
  /-- Trace lines, to be sorted once requests have their names if `isSorted` says so. -/
  | traced (xs : List (Phrase ι)) (isSorted : Bool)
  /-- Log lines, likewise. -/
  | logged (xs : List (Phrase ι)) (isSorted : Bool)
  | request (id : ι)
  | requests (ids : List ι)
  | lock (name : String) (id : ι)
  | snapshot (name : String) (ids : List ι)
  | core (name providerId : String) (number : Nat)
  /-- The request that was waited for has a core. -/
  | fulfilled
  /-- The core was assigned. -/
  | accepted
  | taken (name : Option String)
  | statistics (s : Statistics)
  | counts (s : Statistics)
  | summaries (xs : List (Summary ι))
  | info (i : Info ι)
  | lockInfo (id : ι) (preference : Preference) (age : Nat)
  /-- How much was received, and what is shown of it. -/
  | received (count : Nat) (shown : List (Received Statistics))
  | rosterReceived (xs : List (Received RosterChange))
  | providerId (id : String)
  | providers (ids : List String)
  | slots (issued : Nat) (isClosed : Bool) (total available : Nat) (withoutTotal : Bool)
  | sightings (xs : List Sighting)
  /-- How many providers are tracked, are being asked, and have a core. -/
  | sightingCounts (tracked obtaining holding : Nat)
  | dedicated (providerId : String)
  | speculative
  | broker (hasLocal hasRemote : Bool)
  /-- The service has been shut down. -/
  | down
  | fault (f : Fault ι)
  | refused (core : String) (reason : Fault ι)
  | failed (chain : List String)
  | panicked
  | badStep
  | badSettings
  | busy
  | pending (number : Nat)
  | batch (xs : List (Outcome ι))
  deriving Repr

namespace Outcome

/-- What is shown instead of names that depend on chance. -/
def hidden : String := "*"

/-- A provider without its id. -/
def hideProvider (p : ProviderRef) : ProviderRef := { p with id := hidden }

/-- A change of a roster without the ids of providers. -/
def hideChange : Received RosterChange → Received RosterChange
  | .value c =>
    .value { current := c.current.map hideProvider, added := c.added.map hideProvider
             removed := c.removed.map hideProvider }
  | r => r

mutual
/-- An outcome without the names of providers and cores. -/
def hide {ι : Type} : Outcome ι → Outcome ι
  | .hand names => .hand (names.map fun _ => hidden)
  | .core _ _ n => .core hidden hidden n
  | .taken x => .taken (x.map fun _ => hidden)
  | .info i => .info { i with core := i.core.map fun _ => (hidden, hidden) }
  | .rosterReceived xs => .rosterReceived (xs.map hideChange)
  | .providerId _ => .providerId hidden
  | .providers ids => .providers (ids.map fun _ => hidden)
  | .sightings xs =>
    .sightingCounts xs.length (xs.countP (·.isObtaining)) (xs.countP (·.hasCore))
  | .dedicated _ => .dedicated hidden
  | .refused _ r => .refused hidden r
  | .batch xs => .batch (hideAll xs)
  | x => x

/-- Outcomes without the names of providers and cores. -/
def hideAll {ι : Type} : List (Outcome ι) → List (Outcome ι)
  | [] => []
  | x :: xs => hide x :: hideAll xs
end

end Outcome

end CoreBroker.Scenario
