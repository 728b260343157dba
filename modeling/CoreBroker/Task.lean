set_option autoImplicit false

/-!
# Tasks

Whatever runs on its own is a task: the loop of a fulfiller, one of its attempts to obtain a core, or
an errand of a client.
-/

namespace CoreBroker

/-- The name of a task. -/
inductive Task where
  /-- The loop of the dedicated fulfiller with this index. -/
  | dedicated (fulfiller : Nat)
  /-- The loop of the speculative fulfiller with this index. -/
  | speculative (fulfiller : Nat)
  /-- An attempt of a speculative fulfiller. -/
  | attempt (fulfiller serial : Nat)
  /-- An errand of a client. -/
  | errand (serial : Nat)
  deriving DecidableEq, Repr, Inhabited

end CoreBroker
