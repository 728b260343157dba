import CoreBroker.Text.Phrase
import CoreBroker.Text.Quoted
set_option autoImplicit false

/-!
# Faults

The failures a caller of the registry or of a broker can see, each with its one wording.
-/

namespace CoreBroker

/-- A failure, about requests identified by an `ι` where it is about one. -/
inductive Fault (ι : Type) where
  /-- The request already has a core; a core is assigned once. -/
  | alreadyFulfilled (id : ι)
  /-- The request was disposed of before a core was assigned. -/
  | requestDisposed (id : ι)
  /-- The request was fulfilled, but its core has been taken already. -/
  | noCoreAssigned (id : ι)
  /-- The token of the caller fired. -/
  | cancelled
  /-- Settings that make no sense, and why. -/
  | invalidConfig (reason : String)
  deriving DecidableEq, Repr

namespace Fault

variable {ι : Type}

/-- Cancellation is an answer to the caller's own wish rather than a failure. -/
def isCancelled : Fault ι → Bool
  | cancelled => true
  | _ => false

/-- The name of the kind of fault. -/
def kind : Fault ι → String
  | alreadyFulfilled _ => "AlreadyFulfilled"
  | requestDisposed _ => "RequestDisposed"
  | noCoreAssigned _ => "NoCoreAssigned"
  | cancelled => "Cancelled"
  | invalidConfig _ => "InvalidConfig"

/-- The message shown to a caller. -/
def message : Fault ι → Phrase ι
  | alreadyFulfilled id => "request " ++ Phrase.naming id ++ " has already been fulfilled"
  | requestDisposed id => "request " ++ Phrase.naming id ++ " was disposed before it was fulfilled"
  | noCoreAssigned id => "request " ++ Phrase.naming id ++ " has no core available to take"
  | cancelled => "operation cancelled"
  | invalidConfig reason => ("invalid configuration: " ++ reason : String)

/-- The diagnostic description: the kind and what it is about. -/
def description : Fault ι → Phrase ι
  | alreadyFulfilled id => "AlreadyFulfilled(" ++ Phrase.naming id ++ ")"
  | requestDisposed id => "RequestDisposed(" ++ Phrase.naming id ++ ")"
  | noCoreAssigned id => "NoCoreAssigned(" ++ Phrase.naming id ++ ")"
  | cancelled => "Cancelled"
  | invalidConfig reason => ("InvalidConfig(" ++ Text.quoted reason ++ ")" : String)

end Fault

/-- A refused assignment: the very core that was offered, and why it was refused. -/
structure Refusal (κ ι : Type) where
  core : κ
  reason : Fault ι
  deriving DecidableEq, Repr

namespace Refusal

variable {κ ι : Type}

/-- The message shown to the one who offered the core. -/
def message (r : Refusal κ ι) : Phrase ι := "core rejected: " ++ r.reason.message

/-- The diagnostic description; the core is left out. -/
def description (r : Refusal κ ι) : Phrase ι :=
  Phrase.ofText "FulfillRejected \x7b reason: " ++ r.reason.description ++ Phrase.ofText ", .. \x7d"

end Refusal

end CoreBroker
