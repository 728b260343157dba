import CoreBroker.Request
import CoreBroker.Statistics
set_option autoImplicit false

/-!
# The registry of requests

All requests in the order in which they were entered.  A request that is disposed of stays in the
list, marked as no longer listed, because whoever still refers to it has to find it so; counts,
summaries and candidates look at listed requests only.
-/

namespace CoreBroker

/-- A change of the requests of a registry. -/
inductive RegistryChange (κ : Type) where
  /-- A request was entered. -/
  | entered (r : Request κ)
  /-- A core was assigned to a request. -/
  | assigned (id : Nat) (core : κ)
  /-- The core of a request was taken out. -/
  | taken (id : Nat) (core : κ)
  /-- A request was disposed of, and with it the core it still had. -/
  | disposed (id : Nat) (core : Option κ)
  /-- A request was reserved for one fulfiller. -/
  | reserved (id : Nat)
  /-- The reservation of a request was given up. -/
  | unreserved (id : Nat)
  deriving DecidableEq, Repr

/-- The requests ever entered, oldest first. -/
structure Registry (κ : Type) where
  requests : List (Request κ) := []
  deriving DecidableEq, Repr, Inhabited

namespace Registry

variable {κ : Type}

/-! ## Views -/

/-- The live requests, oldest first. -/
def listed (g : Registry κ) : List (Request κ) := g.requests.filter (·.isListed)

/-- The request with the number `id`, live or not. -/
def get? (g : Registry κ) (id : Nat) : Option (Request κ) := g.requests.find? (·.id == id)

/-- The counts of live requests. -/
def statistics (g : Registry κ) : Statistics :=
  g.listed.foldl (fun s r => s.add r.isAssigned r.preference.isLocal) .zero

/-- Summaries of the live requests, oldest first. -/
def summaries (g : Registry κ) (now : Nat) : List (Summary Nat) :=
  g.listed.map (·.summary now)

/-- The requests that a fulfiller with the constraint may look at, oldest first. -/
def candidates (g : Registry κ) (c : Constraint) : List (Request κ) :=
  g.requests.filter (·.isCandidate c)

/-- How many requests a fulfiller with the constraint may look at. -/
def candidateCount (g : Registry κ) (c : Constraint) : Nat := g.requests.countP (·.isCandidate c)

/-! ## The next request -/

/-- What a fulfiller looks for first. -/
def primaryConstraint (includeLocal : Bool) : Constraint :=
  if includeLocal then .localRequiredAndPreferred else .localPreferredAndRemote

/-- The next request for a fulfiller of local requests, or of remotable ones: the oldest that
passes its primary constraint, and failing that the oldest that has waited long enough for a
remote core. -/
def next? (g : Registry κ) (includeLocal : Bool) (remoteDelay : Option Nat) (now : Nat) :
    Option (Request κ) :=
  (g.requests.filter (·.isCandidate (primaryConstraint includeLocal))
    ++ g.requests.filter (·.isAgedRemote includeLocal remoteDelay now)).head?

/-- Whether there is a next request. -/
def hasNext (g : Registry κ) (includeLocal : Bool) (remoteDelay : Option Nat) (now : Nat) : Bool :=
  g.requests.any fun r =>
    r.isCandidate (primaryConstraint includeLocal) || r.isAgedRemote includeLocal remoteDelay now

/-! ## Changes -/

/-- Enters a request behind all others. -/
def enter (g : Registry κ) (r : Request κ) : Registry κ := ⟨g.requests ++ [r]⟩

/-- Changes the request with the number `id`. -/
def modify (g : Registry κ) (id : Nat) (f : Request κ → Request κ) : Registry κ :=
  ⟨g.requests.map fun r => if r.id == id then f r else r⟩

/-- Reserves a request for one fulfiller. -/
def reserve (g : Registry κ) (id : Nat) : Registry κ :=
  g.modify id fun r => { r with isReserved := true }

/-- Gives up the reservation of a request. -/
def unreserve (g : Registry κ) (id : Nat) : Registry κ :=
  g.modify id fun r => { r with isReserved := false }

/-- Assigns a core to a request, or says why that cannot be. -/
def assign (g : Registry κ) (id : Nat) (core : κ) : Except (Fault Nat) (Registry κ) :=
  match g.get? id with
  | none => .error (.requestDisposed id)
  | some r =>
    match r.assign core with
    | .ok r' => .ok (g.modify id fun _ => r')
    | .error e => .error e

/-- Takes the core out of a request. -/
def empty (g : Registry κ) (id : Nat) : Registry κ := g.modify id (·.withoutCore)

/-- Disposes of a request: takes it off the list, and out of it the core it still had. -/
def dispose (g : Registry κ) (id : Nat) : Registry κ := g.modify id (·.disposed)

end Registry

end CoreBroker
