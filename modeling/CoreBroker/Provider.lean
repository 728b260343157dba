import CoreBroker.Core
import CoreBroker.Obtainment
import CoreBroker.Permits
set_option autoImplicit false

/-!
# Providers

A provider hands out cores on request.  Some follow a script that says what each request for a core
comes to; others have a fixed number of slots and hand out a core as long as one is free.
-/

namespace CoreBroker

/-- How a request for a core ends. -/
inductive Course where
  /-- With a core. -/
  | core
  /-- With a core, once the provider is given a permit to release one. -/
  | release
  /-- With an error: what went wrong, and why, and so on. -/
  | fail (chain : List String)
  /-- With a panic. -/
  | panic
  deriving DecidableEq, Repr, Inhabited

/-- What one request for a core comes to. -/
structure Plan where
  course : Course := .release
  /-- Milliseconds that pass first. -/
  after : Nat := 0
  /-- Whether the core works when it is handed out. -/
  isAlive : Bool := true
  liveness : Liveness := .immediate
  deriving DecidableEq, Repr, Inhabited

/-- Where the cores of a provider come from. -/
inductive Stock where
  /-- The plans for the requests to come, and the permits to release cores. -/
  | scripted (plans : List Plan) (releases : Permits)
  /-- A number of slots. -/
  | slots (total : Nat) (free : Permits)
  deriving DecidableEq, Repr, Inhabited

/-- A provider. -/
structure Provider where
  ref : ProviderRef
  /-- What the names of its cores begin with. -/
  handle : String
  /-- How many cores it has handed out. -/
  issued : Nat := 0
  stock : Stock
  deriving DecidableEq, Repr, Inhabited

namespace Provider

/-- The greatest number of slots. -/
def maxSlots : Nat := UInt64.size / 8 - 1

/-- The id of the provider that stands for this machine. -/
def localId : String := "local"

/-- A provider with a fixed number of slots. -/
def withSlots (ref : ProviderRef) (handle : String) (slots : Nat) : Provider :=
  { ref, handle, stock := .slots slots { free := slots } }

/-- Whether a provider of slots has been closed. -/
def isClosed (p : Provider) : Bool :=
  match p.stock with
  | .slots _ free => free.isClosed
  | .scripted _ _ => false

/-- How many slots no core holds. -/
def freeSlots (p : Provider) : Nat :=
  match p.stock with
  | .slots _ free => free.free
  | .scripted _ _ => 0

/-- How many slots there are. -/
def totalSlots (p : Provider) : Nat :=
  match p.stock with
  | .slots total _ => total
  | .scripted _ _ => 0

/-- Closes a provider of slots. -/
def close (p : Provider) : Provider :=
  match p.stock with
  | .slots total free => { p with stock := .slots total free.close }
  | .scripted _ _ => p

/-- The plan for the next request, and the provider with it used up. -/
def nextPlan (p : Provider) : Plan × Provider :=
  match p.stock with
  | .scripted (plan :: rest) releases => (plan, { p with stock := .scripted rest releases })
  | _ => ({}, p)

/-- The permits that requests of the provider wait for. -/
def permits (p : Provider) : Permits :=
  match p.stock with
  | .scripted _ releases => releases
  | .slots _ free => free

/-- Replaces the permits that requests of the provider wait for. -/
def setPermits (p : Provider) (permits : Permits) : Provider :=
  match p.stock with
  | .scripted plans _ => { p with stock := .scripted plans permits }
  | .slots total _ => { p with stock := .slots total permits }

end Provider

end CoreBroker
