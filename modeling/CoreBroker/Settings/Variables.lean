import CoreBroker.Settings.Basic
import CoreBroker.Text.Blank
import CoreBroker.Text.Unsigned
set_option autoImplicit false

/-!
# Settings from variables

Six variables override the default settings of a broker.  They are read in a fixed order and the
first unreadable one is reported by name.  White space around a value does not count.
-/

namespace CoreBroker.BrokerSettings

/-- What the names of all variables start with. -/
def variableStem : String := "CORE_POOL_"

/-- Reads a truth value. -/
def readBool (s : List Char) : Except String Bool :=
  if s = "true".toList then .ok true
  else if s = "false".toList then .ok false
  else .error "provided string was not \u0060true\u0060 or \u0060false\u0060"

/-- Reads a number of sixty-four bits. -/
def readUInt64 (s : List Char) : Except String UInt64 :=
  match Text.unsigned? (UInt64.size - 1) s with
  | .ok n => .ok (UInt64.ofNat n)
  | .error e => .error e.message

/-- The value of a variable if it is set: `read` sees it without white space around it. -/
def readVariable {α : Type} (lookup : String → Option String) (read : List Char → Except String α)
    (name : String) : Except String (Option α) :=
  match lookup (variableStem ++ name) with
  | none => .ok none
  | some raw =>
    match read (Text.trim raw.toList) with
    | .ok a => .ok (some a)
    | .error e => .error (variableStem ++ name ++ ": " ++ e)

/-- The default settings overridden by variables. -/
def ofVariables (lookup : String → Option String) : Except String BrokerSettings := do
  let remoteEnabled ← readVariable lookup readBool "ENABLE_REMOTE"
  let remoteDelay ← readVariable lookup readUInt64 "REMOTE_DELAY_MS"
  let localRetryDelay ← readVariable lookup readUInt64 "LOCAL_RETRY_DELAY_MS"
  let remoteRetryDelay ← readVariable lookup readUInt64 "REMOTE_RETRY_DELAY_MS"
  let slack ← readVariable lookup readUInt64 "OBTAINMENT_SLACK"
  let remoteServesLocal ← readVariable lookup readBool "REMOTE_FULFILLS_LOCAL"
  let default : BrokerSettings := {}
  checked
    { localSide :=
        { default.localSide with
          remoteDelay := remoteDelay
          retryDelay := localRetryDelay.getD default.localSide.retryDelay }
      remoteSide :=
        { servesLocal := remoteServesLocal.getD default.remoteSide.servesLocal
          slack := slack.getD default.remoteSide.slack
          retryDelay := remoteRetryDelay.getD default.remoteSide.retryDelay }
      remoteEnabled := remoteEnabled.getD default.remoteEnabled }

end CoreBroker.BrokerSettings
