set_option autoImplicit false

/-!
# Cancellation tokens

A token is fired at most once and stays fired.  Firing a token fires its descendants as well, so a
token is kept as its own number together with those of its ancestors; what has fired is a list of
numbers.
-/

namespace CoreBroker

/-- A cancellation token. -/
structure Token where
  number : Nat
  ancestors : List Nat := []
  deriving DecidableEq, Repr, Inhabited

namespace Token

/-- The token with the number `n` that fires when `parent` does. -/
def child (parent : Token) (n : Nat) : Token := ⟨n, parent.number :: parent.ancestors⟩

/-- Whether the token counts as fired when the tokens numbered `fired` were. -/
def isCancelled (t : Token) (fired : List Nat) : Bool :=
  fired.contains t.number || t.ancestors.any fired.contains

theorem isCancelled_child (parent : Token) (n : Nat) (fired : List Nat) :
    (parent.child n).isCancelled fired = (fired.contains n || parent.isCancelled fired) := by
  simp [child, isCancelled]

end Token

end CoreBroker
