import CoreBroker.Summary
import CoreBroker.Token
set_option autoImplicit false

/-!
# Obtaining a core from one provider

A fulfiller that asks several providers at once keeps an obtainment for each.  It is idle, or an
attempt is in flight, or a core has arrived and waits for a request.  Attempts are numbered; an
outcome that is reported for any attempt but the one in flight is refused, and a refused core goes
back to the one who brought it.
-/

namespace CoreBroker

/-- A provider as a registered object: two objects may come under the same id, one after the
other, and `serial` tells them apart. -/
structure ProviderRef where
  serial : Nat
  id : String
  deriving DecidableEq, Repr, Inhabited

/-- Where an obtainment stands. -/
inductive ObtainmentPhase (κ : Type) where
  | idle
  | obtaining (attempt : Nat) (token : Token)
  | holding (core : κ)
  deriving DecidableEq, Repr

/-- The obtainment of a core from one provider. -/
structure Obtainment (κ : Type) where
  provider : ProviderRef
  phase : ObtainmentPhase κ
  /-- How many attempts have been started; the number of the last one. -/
  started : Nat
  deriving DecidableEq, Repr

namespace Obtainment

variable {κ : Type}

/-- A fresh obtainment. -/
def new (provider : ProviderRef) : Obtainment κ := ⟨provider, .idle, 0⟩

/-- Whether the obtainment is about this very provider object. -/
def belongsTo (o : Obtainment κ) (provider : ProviderRef) : Bool :=
  o.provider.serial == provider.serial

/-- Neither obtaining nor holding a core. -/
def isIdle (o : Obtainment κ) : Bool :=
  match o.phase with
  | .idle => true
  | _ => false

/-- An attempt is in flight. -/
def isObtaining (o : Obtainment κ) : Bool :=
  match o.phase with
  | .obtaining _ _ => true
  | _ => false

/-- A core is held. -/
def hasCore (o : Obtainment κ) : Bool :=
  match o.phase with
  | .holding _ => true
  | _ => false

/-- Obtaining or holding; this is what sizing counts. -/
def isEngaged (o : Obtainment κ) : Bool := !o.isIdle

/-- Starts the next attempt, to be cancelled by `token`; only an idle obtainment does. -/
def start? (o : Obtainment κ) (token : Token) : Option (Nat × Obtainment κ) :=
  match o.phase with
  | .idle =>
    let attempt := o.started + 1
    some (attempt, { o with phase := .obtaining attempt token, started := attempt })
  | _ => none

/-- The attempt with this number is the one in flight. -/
def isCurrent (o : Obtainment κ) (attempt : Nat) : Bool :=
  match o.phase with
  | .obtaining current _ => current == attempt
  | _ => false

/-- Takes in the core that an attempt brought, unless the attempt is not the current one. -/
def accept? (o : Obtainment κ) (attempt : Nat) (core : κ) : Option (Obtainment κ) :=
  if o.isCurrent attempt then some { o with phase := .holding core } else none

/-- Ends an attempt without a core, unless it is not the current one. -/
def fail? (o : Obtainment κ) (attempt : Nat) : Option (Obtainment κ) :=
  if o.isCurrent attempt then some { o with phase := .idle } else none

/-- Takes out the held core. -/
def take? (o : Obtainment κ) : Option (κ × Obtainment κ) :=
  match o.phase with
  | .holding core => some (core, { o with phase := .idle })
  | _ => none

/-- Puts back a core that was taken out; only an idle obtainment takes it. -/
def restore? (o : Obtainment κ) (core : κ) : Option (Obtainment κ) :=
  match o.phase with
  | .idle => some { o with phase := .holding core }
  | _ => none

/-- The core that has to be disposed of when the obtainment is given up. -/
def heldCore? (o : Obtainment κ) : Option κ :=
  match o.phase with
  | .holding core => some core
  | _ => none

/-- The token that has to be fired when the obtainment is given up. -/
def inFlight? (o : Obtainment κ) : Option Token :=
  match o.phase with
  | .obtaining _ token => some token
  | _ => none

/-- Gives up: back to idle from wherever it stands. -/
def release (o : Obtainment κ) : Obtainment κ := { o with phase := .idle }

/-- What is shown of the obtainment. -/
def sighting (o : Obtainment κ) : Sighting :=
  { providerId := o.provider.id, isObtaining := o.isObtaining, hasCore := o.hasCore }

end Obtainment

end CoreBroker
