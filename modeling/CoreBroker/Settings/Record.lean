import CoreBroker.Json.Parser
import CoreBroker.Json.Record
import CoreBroker.Settings.Basic
set_option autoImplicit false

/-!
# Settings as data

Every field has a default and may be left out.
-/

namespace CoreBroker

/-- A number of sixty-four bits in data. -/
def jsonOfUInt64 (n : UInt64) : Json := .count n.toNat

namespace DedicatedSettings

/-- The names of the fields in data, in order. -/
def fieldNames : List String := ["fulfills_local_requests", "remote_delay_ms", "retry_delay_ms"]

/-- The data record of the settings. -/
def toJson (s : DedicatedSettings) : Json :=
  .object (fieldNames.zip
    [.bool s.servesLocal, Json.ofOption jsonOfUInt64 s.remoteDelay, jsonOfUInt64 s.retryDelay])

/-- Reads the settings. -/
def ofJson? (j : Json) : Option DedicatedSettings := do
  let default : DedicatedSettings := {}
  match ← Json.record? fieldNames j with
  | [servesLocal, remoteDelay, retryDelay] =>
    return { servesLocal := ← Json.orDefault Json.bool? default.servesLocal servesLocal
             remoteDelay :=
               ← Json.orDefault (Json.nullable? Json.uint64?) default.remoteDelay remoteDelay
             retryDelay := ← Json.orDefault Json.uint64? default.retryDelay retryDelay }
  | _ => none

end DedicatedSettings

namespace SpeculativeSettings

/-- The names of the fields in data, in order. -/
def fieldNames : List String := ["fulfills_local_requests", "obtainment_slack", "retry_delay_ms"]

/-- The data record of the settings. -/
def toJson (s : SpeculativeSettings) : Json :=
  .object (fieldNames.zip
    [.bool s.servesLocal, jsonOfUInt64 s.slack, jsonOfUInt64 s.retryDelay])

/-- Reads the settings. -/
def ofJson? (j : Json) : Option SpeculativeSettings := do
  let default : SpeculativeSettings := {}
  match ← Json.record? fieldNames j with
  | [servesLocal, slack, retryDelay] =>
    return { servesLocal := ← Json.orDefault Json.bool? default.servesLocal servesLocal
             slack := ← Json.orDefault Json.uint64? default.slack slack
             retryDelay := ← Json.orDefault Json.uint64? default.retryDelay retryDelay }
  | _ => none

end SpeculativeSettings

namespace BrokerSettings

/-- The names of the fields in data, in order. -/
def fieldNames : List String := ["local", "remote", "enable_remote"]

/-- The data record of the settings. -/
def toJson (s : BrokerSettings) : Json :=
  .object (fieldNames.zip
    [s.localSide.toJson, s.remoteSide.toJson, .bool s.remoteEnabled])

/-- Reads the settings. -/
def ofJson? (j : Json) : Option BrokerSettings := do
  let default : BrokerSettings := {}
  match ← Json.record? fieldNames j with
  | [localSide, remoteSide, remoteEnabled] =>
    return { localSide :=
               ← Json.orDefault DedicatedSettings.ofJson? default.localSide localSide
             remoteSide :=
               ← Json.orDefault SpeculativeSettings.ofJson? default.remoteSide remoteSide
             remoteEnabled := ← Json.orDefault Json.bool? default.remoteEnabled remoteEnabled }
  | _ => none

/-- Reads settings from a data text; settings that are objected to are refused. -/
def ofText (text : String) : Except String BrokerSettings :=
  match (Json.parse? text).bind ofJson? with
  | none => .error "parse error"
  | some s => s.checked

end BrokerSettings

end CoreBroker
