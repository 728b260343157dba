import CoreBroker.Obtainment
set_option autoImplicit false

/-!
# The obtainments of a speculative fulfiller

One obtainment for each provider it tracks, found by the id of the provider.  Here are the changes
that a pass makes to them as a whole: bringing them in line with the roster, and bringing the number
of engaged providers in line with the demand.
-/

namespace CoreBroker

/-- The obtainments of tracked providers, at most one to an id. -/
abbrev States (κ : Type) := List (Obtainment κ)

namespace States

variable {κ : Type}

/-- The obtainment from the provider with this id. -/
def get? (states : States κ) (id : String) : Option (Obtainment κ) :=
  states.find? (·.provider.id == id)

/-- Changes the obtainment from the provider with this id. -/
def modify (states : States κ) (id : String) (f : Obtainment κ → Obtainment κ) : States κ :=
  states.map fun o => if o.provider.id == id then f o else o

/-- The obtainment from this very provider, not just from one under the same id. -/
def own? (states : States κ) (provider : ProviderRef) : Option (Obtainment κ) :=
  (states.get? provider.id).filter (·.belongsTo provider)

/-- What is shown of the obtainments, by the ids of their providers. -/
def sightings (states : States κ) : List Sighting :=
  (states.map (·.sighting)).mergeSort fun a b => !(b.providerId < a.providerId)

/-! ## Reconciling with the roster -/

/-- Whether the provider object of an obtainment is registered. -/
def isRegistered (current : List ProviderRef) (o : Obtainment κ) : Bool := current.any o.belongsTo

/-- The obtainments whose provider has gone or was replaced. -/
def departed (states : States κ) (current : List ProviderRef) : List (Obtainment κ) :=
  states.filter fun o => !isRegistered current o

/-- The obtainments whose provider is still there. -/
def remaining (states : States κ) (current : List ProviderRef) : States κ :=
  states.filter (isRegistered current)

/-- The registered providers that are not tracked. -/
def arrived (states : States κ) (current : List ProviderRef) : List ProviderRef :=
  current.filter fun p => ((states.remaining current).get? p.id).isNone

/-- The obtainments in line with the roster: those of departed providers are dropped, and every
newcomer gets a fresh one. -/
def sync (states : States κ) (current : List ProviderRef) : States κ :=
  states.remaining current ++ (states.arrived current).map .new

/-! ## Cores that wait for a request -/

/-- The ids of the providers whose obtainments hold a core. -/
def holders (states : States κ) : List String :=
  (states.filter (·.hasCore)).map (·.provider.id)

/-- Takes the core out of the obtainment from the provider with this id. -/
def takeCore? (states : States κ) (id : String) : Option (κ × States κ) :=
  match (states.get? id).bind (·.take?) with
  | some (core, o) => some (core, states.modify id fun _ => o)
  | none => none

/-- Puts a core back into the obtainment it was taken from. -/
def restoreCore? (states : States κ) (id : String) (core : κ) : Option (States κ) :=
  ((states.get? id).bind (·.restore? core)).map fun o => states.modify id fun _ => o

/-- Puts cores back; those that cannot be put back are returned. -/
def restoreCores (states : States κ) : List (String × κ) → States κ × List κ
  | [] => (states, [])
  | (id, core) :: rest =>
    match states.restoreCore? id core with
    | some states => restoreCores states rest
    | none =>
      let (states, refused) := restoreCores states rest
      (states, core :: refused)

/-! ## Sizing -/

/-- The ids of engaged providers. -/
def engaged (states : States κ) : List String :=
  (states.filter (·.isEngaged)).map (·.provider.id)

/-- The ids of idle providers. -/
def idle (states : States κ) : List String := (states.filter (·.isIdle)).map (·.provider.id)

/-- How many providers should be engaged while `pending` requests wait: none without demand, else
`slack` more than there are requests, in sixty-four bits. -/
def target (pending slack : Nat) : Nat := if pending = 0 then 0 else (pending + slack) % UInt64.size

end States

end CoreBroker
