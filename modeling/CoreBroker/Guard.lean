set_option autoImplicit false

/-!
# Guards

A guard is held by one holder at a time and handed on in the order of asking.  A guard that is given
back goes straight to the first in the queue, so nobody can slip in between.
-/

namespace CoreBroker

/-- A fair lock among holders of type `ω`. -/
structure Guard (ω : Type) where
  holder : Option ω := none
  queue : List ω := []
  deriving DecidableEq, Repr, Inhabited

namespace Guard

variable {ω : Type} [DecidableEq ω]

/-- The guard in the hands of `w`, if `w` has it already or nobody does. -/
def enter? (g : Guard ω) (w : ω) : Option (Guard ω) :=
  match g.holder with
  | none => some { g with holder := some w }
  | some h => if h = w then some g else none

/-- The guard with `w` in its queue, unless `w` waits there already. -/
def join? (g : Guard ω) (w : ω) : Option (Guard ω) :=
  if w ∈ g.queue then none else some { g with queue := g.queue ++ [w] }

/-- The guard given back by its holder: the first in the queue has it now. -/
def leave (g : Guard ω) : Guard ω :=
  match g.queue with
  | [] => { holder := none, queue := [] }
  | w :: rest => { holder := some w, queue := rest }

/-- The guard given up by `w`, whether it holds it or waits for it. -/
def withdraw (g : Guard ω) (w : ω) : Guard ω :=
  if g.holder = some w then g.leave else { g with queue := g.queue.filter (· ≠ w) }

/-- The guard with its holder replaced. -/
def passTo (g : Guard ω) (w : ω) : Guard ω := { g with holder := some w }

end Guard

end CoreBroker
