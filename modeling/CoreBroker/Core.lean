set_option autoImplicit false

/-!
# Cores

A core is one unit of capacity.  Every core ever made has its own serial number, so that it can be
followed wherever it goes.
-/

namespace CoreBroker

/-- How a core can be asked whether it still works. -/
inductive Liveness where
  /-- It cannot be asked and counts as alive. -/
  | unknown
  /-- It can be asked at once. -/
  | immediate
  /-- It can be asked, and the answer waits for a permit of a gate. -/
  | gated (gate : String)
  /-- It is a slot of a provider and works until the provider closes. -/
  | slot (provider : Nat)
  deriving DecidableEq, Repr, Inhabited

/-- One unit of capacity. -/
structure Core where
  serial : Nat
  /-- Who issued it, as it appears in the name of the core. -/
  handle : String
  /-- The number among the cores of its issuer. -/
  number : Nat
  /-- The id of its provider. -/
  providerId : String
  liveness : Liveness
  deriving DecidableEq, Repr, Inhabited

namespace Core

/-- The name of a core. -/
def name (c : Core) : String := c.handle ++ "#" ++ toString c.number

end Core

end CoreBroker
