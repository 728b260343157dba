import CoreBroker.Json.Record
import CoreBroker.Preference
import CoreBroker.Span
import CoreBroker.Uuid
set_option autoImplicit false

/-!
# Summaries

What a caller sees of a live request, and of a provider that is being asked for a core, together
with their data records.
-/

namespace CoreBroker

namespace Preference

/-- A preference in data: its word. -/
def toJson (p : Preference) : Json := .text p.word

/-- Reads a preference. -/
def ofJson? (j : Json) : Option Preference := (Json.word? j).bind ofWord?

end Preference

namespace Constraint

/-- A constraint in data: its word. -/
def toJson (c : Constraint) : Json := .text c.word

/-- Reads a constraint. -/
def ofJson? (j : Json) : Option Constraint := (Json.word? j).bind ofWord?

end Constraint

namespace Span

/-- A span in data: its seconds and nanoseconds. -/
def toJson (s : Span) : Json := .object [("secs", .count s.secs), ("nanos", .count s.nanos)]

/-- Reads a span.  A second or more of nanoseconds is carried into the seconds, which have
sixty-four bits; no other fields are accepted. -/
def ofJson? (j : Json) : Option Span := do
  match ← Json.strictRecord? ["secs", "nanos"] j with
  | [some secs, some nanos] =>
    let s := ofParts (← Json.nat? 64 secs) (← Json.nat? 32 nanos)
    if s.secs < UInt64.size then some s else none
  | _ => none

end Span

/-- A description of a live request, known by an `ι`. -/
structure Summary (ι : Type) where
  id : ι
  preference : Preference
  isFulfilled : Bool
  createdWall : Nat
  age : Span
  deriving DecidableEq, Repr

namespace Summary

/-- The names of the fields in data, in order. -/
def fieldNames : List String := ["id", "preference", "fulfilled", "created_at_ms", "age"]

/-- The data record of a summary, with the identifier shown as `name` says. -/
def toJson {ι : Type} (name : ι → String) (s : Summary ι) : Json :=
  .object (fieldNames.zip
    [.text (name s.id), s.preference.toJson, .bool s.isFulfilled, .count s.createdWall,
     s.age.toJson])

/-- Reads a summary of a request known by a 128-bit identifier; the time of creation has 128 bits
too. -/
def ofJson? (j : Json) : Option (Summary Uuid) := do
  match ← Json.record? fieldNames j with
  | [some id, some preference, some isFulfilled, some createdWall, some age] =>
    return { id := ← (Json.text? id).bind Uuid.parse?
             preference := ← Preference.ofJson? preference
             isFulfilled := ← Json.bool? isFulfilled
             createdWall := ← Json.nat? 128 createdWall
             age := ← Span.ofJson? age }
  | _ => none

end Summary

/-- What is known of a provider while it is asked for cores. -/
structure Sighting where
  providerId : String
  isObtaining : Bool
  hasCore : Bool
  deriving DecidableEq, Repr, Inhabited

namespace Sighting

/-- The names of the fields in data, in order. -/
def fieldNames : List String := ["provider_id", "is_obtaining", "has_core"]

/-- The data record of a sighting. -/
def toJson (s : Sighting) : Json :=
  .object (fieldNames.zip [.text s.providerId, .bool s.isObtaining, .bool s.hasCore])

/-- Reads a sighting. -/
def ofJson? (j : Json) : Option Sighting := do
  match ← Json.record? fieldNames j with
  | [some providerId, some isObtaining, some hasCore] =>
    return { providerId := ← Json.text? providerId
             isObtaining := ← Json.bool? isObtaining
             hasCore := ← Json.bool? hasCore }
  | _ => none

end Sighting

end CoreBroker
