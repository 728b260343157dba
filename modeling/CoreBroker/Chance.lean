set_option autoImplicit false

/-!
# Chance

Where the choice among providers is random, it is made by an order of their ids.  Nothing is known
about the order but that it neither loses nor repeats an id, so a law about all chances is a law
about every outcome of the choice.
-/

namespace CoreBroker

/-- The outcome of every random choice: the order in which the ids of the `n`th choice come out. -/
structure Chance where
  order : Nat → List String → List String
  perm : ∀ n ids, (order n ids).Perm ids

namespace Chance

/-- The chance that leaves everything in order. -/
def plain : Chance := ⟨fun _ ids => ids, fun _ ids => .refl ids⟩

instance : Inhabited Chance := ⟨plain⟩

theorem length_order (c : Chance) (n : Nat) (ids : List String) :
    (c.order n ids).length = ids.length := (c.perm n ids).length_eq

theorem mem_order (c : Chance) (n : Nat) (ids : List String) (id : String) :
    id ∈ c.order n ids ↔ id ∈ ids := (c.perm n ids).mem_iff

end Chance

end CoreBroker
