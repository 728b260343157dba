import CoreBroker.Fault
import CoreBroker.Preference
import CoreBroker.Summary
set_option autoImplicit false

/-!
# Requests

A request is a claim on one core.  It is known by a number that no other request ever has.  A core
is assigned to it at most once and belongs to it until somebody takes it; the completion signal
leaves `pending` at most once, for good.
-/

namespace CoreBroker

/-- The completion signal of a request. -/
inductive RequestPhase where
  | pending
  | fulfilled
  | disposed
  deriving DecidableEq, Repr, Inhabited

/-- A request for a core of type `κ`. -/
structure Request (κ : Type) where
  id : Nat
  preference : Preference
  /-- The steady clock at creation. -/
  createdAt : Nat
  /-- The wall clock at creation. -/
  createdWall : Nat
  /-- A core was assigned at some time. -/
  isAssigned : Bool := false
  /-- The assigned core, until it is taken. -/
  core : Option κ := none
  phase : RequestPhase := .pending
  /-- Reserved for one fulfiller. -/
  isReserved : Bool := false
  /-- Still in the registry. -/
  isListed : Bool := true
  deriving DecidableEq, Repr

namespace Request

variable {κ : Type}

/-- Milliseconds since the request was created. -/
def age (r : Request κ) (now : Nat) : Nat := now - r.createdAt

/-- A pending request nobody has reserved and that the constraint admits. -/
def isCandidate (c : Constraint) (r : Request κ) : Bool :=
  r.isListed && !r.isAssigned && !r.isReserved && c.admits r.preference

/-- A candidate that prefers a remote core and has waited long enough to be served locally. -/
def isAgedRemote (includeLocal : Bool) (remoteDelay : Option Nat) (now : Nat) (r : Request κ) :
    Bool :=
  includeLocal && r.preference == .preferRemote
    && remoteDelay.any (fun delay => delay ≤ r.age now) && r.isCandidate .all

/-- Assigns a core, or says why that cannot be. -/
def assign (r : Request κ) (core : κ) : Except (Fault Nat) (Request κ) :=
  if r.isAssigned then .error (.alreadyFulfilled r.id)
  else if r.phase = .disposed then .error (.requestDisposed r.id)
  else .ok { r with isAssigned := true, core := some core, phase := .fulfilled }

/-- The request without its core. -/
def withoutCore (r : Request κ) : Request κ := { r with core := none }

/-- The request after its disposal: no core, no longer listed, and no longer pending. -/
def disposed (r : Request κ) : Request κ :=
  { r with core := none, isListed := false
           phase := if r.phase = .pending then .disposed else r.phase }

/-- What a caller sees of the request. -/
def summary (r : Request κ) (now : Nat) : Summary Nat :=
  { id := r.id
    preference := r.preference
    isFulfilled := r.isAssigned
    createdWall := r.createdWall
    age := Span.ofMillis (r.age now) }

/-- The diagnostic description of a request. -/
def description (r : Request κ) : Phrase Nat :=
  Phrase.ofText "WorkerCoreRequest \x7b id: " ++ Phrase.naming r.id
    ++ Phrase.ofText (", preference: " ++ r.preference.label ++ ", fulfilled: "
        ++ (if r.isAssigned then "true" else "false") ++ ", .. \x7d")

end Request

end CoreBroker
