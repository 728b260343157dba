import CoreBroker.Channel
import CoreBroker.Obtainment
import CoreBroker.Text.Quoted
import CoreBroker.Trace
set_option autoImplicit false

/-!
# The roster of providers

The providers a fulfiller may draw from, in the order in which they joined, at most one to an id.
Every change is announced with the roster as it then is.
-/

namespace CoreBroker

/-- The announcement of a change: exactly one of `added` and `removed` is there. -/
structure RosterChange where
  current : List ProviderRef
  added : Option ProviderRef := none
  removed : Option ProviderRef := none
  deriving DecidableEq, Repr

namespace RosterChange

/-- A quoted text that may be absent. -/
def describeOption : Option ProviderRef → String
  | none => "None"
  | some p => "Some(" ++ Text.quoted p.id ++ ")"

/-- The diagnostic description of a change. -/
def description (c : RosterChange) : String :=
  "ProvidersChanged \x7b current: " ++ Text.quotedList (c.current.map (·.id))
    ++ ", added: " ++ describeOption c.added ++ ", removed: " ++ describeOption c.removed
    ++ " \x7d"

end RosterChange

/-- The registered providers and the announcements about them. -/
structure Roster where
  members : List ProviderRef := []
  changes : Channel RosterChange := .new defaultChannelCapacity
  sink : Trace.Sink := .nowhere

namespace Roster

instance : Inhabited Roster := ⟨{}⟩

/-- Whether a provider with this id is registered. -/
def has (r : Roster) (id : String) : Bool := r.members.any (·.id == id)

/-- Announces a change. -/
def announce (r : Roster) (change : RosterChange) : Roster :=
  { r with changes := (r.changes.announce change).2 }

/-- Registers a provider, unless its id is taken. -/
def add? (r : Roster) (p : ProviderRef) : Option Roster :=
  if r.has p.id then none
  else
    let members := r.members ++ [p]
    some ({ r with members }.announce { current := members, added := some p })

/-- Unregisters the provider with this id, if there is one. -/
def remove? (r : Roster) (id : String) : Option Roster :=
  match r.members.find? (·.id == id) with
  | none => none
  | some p =>
    let members := r.members.eraseP (·.id == id)
    some ({ r with members }.announce { current := members, removed := some p })

end Roster

end CoreBroker
