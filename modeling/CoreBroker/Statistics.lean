import CoreBroker.Json.Record
set_option autoImplicit false

/-!
# Counts of requests

Live requests counted by whether they must run locally and whether they have a core.
-/

namespace CoreBroker

/-- How many live requests there are of each of the four sorts. -/
structure Statistics where
  unfulfilledLocal : Nat
  unfulfilledRemotable : Nat
  fulfilledLocal : Nat
  fulfilledRemotable : Nat
  deriving DecidableEq, Repr, Inhabited

namespace Statistics

/-- No requests at all. -/
def zero : Statistics := ⟨0, 0, 0, 0⟩

/-- The number of values of a counter; sums of counters are taken modulo it. -/
def counterRange : Nat := UInt64.size

/-- All live requests. -/
def total (s : Statistics) : Nat :=
  (s.unfulfilledLocal + s.unfulfilledRemotable + s.fulfilledLocal + s.fulfilledRemotable)
    % counterRange

/-- The requests still waiting for a core. -/
def unfulfilled (s : Statistics) : Nat :=
  (s.unfulfilledLocal + s.unfulfilledRemotable) % counterRange

/-- One more request of the sort given by its assignment and locality. -/
def add (s : Statistics) (isAssigned isLocal : Bool) : Statistics :=
  match isAssigned, isLocal with
  | false, true => { s with unfulfilledLocal := s.unfulfilledLocal + 1 }
  | false, false => { s with unfulfilledRemotable := s.unfulfilledRemotable + 1 }
  | true, true => { s with fulfilledLocal := s.fulfilledLocal + 1 }
  | true, false => { s with fulfilledRemotable := s.fulfilledRemotable + 1 }

/-- The counts in order. -/
def toList (s : Statistics) : List Nat :=
  [s.unfulfilledLocal, s.unfulfilledRemotable, s.fulfilledLocal, s.fulfilledRemotable]

/-- The names of the counts in data, in order. -/
def fieldNames : List String :=
  ["unfulfilled_local_requests", "unfulfilled_remotable_requests", "fulfilled_local_requests",
   "fulfilled_remotable_requests"]

/-- The counts as a data record. -/
def toJson (s : Statistics) : Json :=
  .object (fieldNames.zip (s.toList.map Json.count))

/-- Reads the counts; each is required. -/
def ofJson? (j : Json) : Option Statistics := do
  match ← Json.record? fieldNames j with
  | [some a, some b, some c, some d] =>
    return ⟨← Json.nat? 64 a, ← Json.nat? 64 b, ← Json.nat? 64 c, ← Json.nat? 64 d⟩
  | _ => none

end Statistics

end CoreBroker
