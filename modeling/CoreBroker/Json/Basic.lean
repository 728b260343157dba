set_option autoImplicit false

/-!
# Data values

The tree of a data text.  Integers are kept exactly; a number with a fraction or an exponent is
kept as it was spelled, since no record of this library holds one.  `unreadable` stands for a part
that is well formed but names no value, such as half of a surrogate pair: it may be skipped but
never read.
-/

namespace CoreBroker

/-- A data value; the fields of an object are in the order of the text. -/
inductive Json where
  | null
  | bool (value : Bool)
  | integer (value : Int)
  | decimal (literal : String)
  | text (value : String)
  | list (items : List Json)
  | object (fields : List (String × Json))
  | unreadable
  deriving Inhabited, Repr, BEq

namespace Json

/-- A natural number as a value. -/
def count (n : Nat) : Json := .integer n

/-- The value of an optional part, `null` when it is absent. -/
def ofOption {α : Type} (f : α → Json) : Option α → Json
  | none => .null
  | some a => f a

/-- The last field called `name` of an object. -/
def field? (j : Json) (name : String) : Option Json :=
  match j with
  | .object fields => (fields.reverse.find? (·.1 == name)).map (·.2)
  | _ => none

mutual
/-- How many lists and objects are nested in one another, at most. -/
def depth : Json → Nat
  | .list items => depthOfItems items + 1
  | .object fields => depthOfFields fields + 1
  | _ => 0

/-- The greatest depth among items. -/
def depthOfItems : List Json → Nat
  | [] => 0
  | j :: rest => max (depth j) (depthOfItems rest)

/-- The greatest depth among the values of fields. -/
def depthOfFields : List (String × Json) → Nat
  | [] => 0
  | (_, j) :: rest => max (depth j) (depthOfFields rest)
end

end Json

end CoreBroker
