import CoreBroker.Json.Basic
set_option autoImplicit false

/-!
# Records in data

How a record with named fields is found in a data value.  It may be written as an object, where
fields the record does not have are passed over and a field given twice is refused, or as a list of
its fields in order, where the end may be missing but nothing may follow.
-/

namespace CoreBroker.Json

/-- Whether one of `names` occurs twice among the fields. -/
def hasDuplicate (names : List String) (fields : List (String × Json)) : Bool :=
  names.any fun name => 2 ≤ (fields.map (·.1)).count name

/-- The values of the fields called `names`, in that order, with `none` for an absent one. -/
def record? (names : List String) : Json → Option (List (Option Json))
  | .object fields =>
    if hasDuplicate names fields then none
    else some (names.map fun name => (fields.find? (·.1 == name)).map (·.2))
  | .list items =>
    if names.length < items.length then none
    else some ((List.range names.length).map fun i => items[i]?)
  | _ => none

/-- As `record?`, but an object may have no other fields. -/
def strictRecord? (names : List String) : Json → Option (List (Option Json))
  | .object fields =>
    if fields.all fun (name, _) => names.contains name then record? names (.object fields)
    else none
  | j => record? names j

/-- A truth value. -/
def bool? : Json → Option Bool
  | .bool b => some b
  | _ => none

/-- A natural number below `2 ^ bits`. -/
def nat? (bits : Nat) : Json → Option Nat
  | .integer (.ofNat n) => if n < Nat.pow 2 bits then some n else none
  | _ => none

/-- A number in sixty-four bits. -/
def uint64? (j : Json) : Option UInt64 := (nat? 64 j).map UInt64.ofNat

/-- A text. -/
def text? : Json → Option String
  | .text s => some s
  | _ => none

/-- A value that may be `null`. -/
def nullable? {α : Type} (read : Json → Option α) : Json → Option (Option α)
  | .null => some none
  | j => (read j).map some

/-- One of a list of words: the word itself, or an object whose only field it names with `null`. -/
def word? : Json → Option String
  | .text s => some s
  | .object [(s, .null)] => some s
  | _ => none

/-- A field that may be absent. -/
def orDefault {α : Type} (read : Json → Option α) (default : α) : Option Json → Option α
  | none => some default
  | some j => read j

end CoreBroker.Json
