import CoreBroker.Span
set_option autoImplicit false

/-!
# Settings

How the two kinds of fulfiller and the broker that joins them are set up.  Numbers have sixty-four
bits and delays are in milliseconds.  `check` gives the first objection to the settings, if there
is one.
-/

namespace CoreBroker

/-- How many attempts are kept in flight beyond the demand, unless set otherwise. -/
def defaultSlack : UInt64 := 3

/-- The pause after a failure in milliseconds, unless set otherwise. -/
def defaultRetryDelay : UInt64 := 1000

/-- A span in whole milliseconds, modulo `2 ^ 64`. -/
def delayOfSpan (s : Span) : UInt64 := UInt64.ofNat s.millis

/-- A delay as a span. -/
def spanOfDelay (d : UInt64) : Span := Span.ofMillis d.toNat

/-- Settings of a fulfiller with one provider of its own. -/
structure DedicatedSettings where
  /-- Serve requests that require or prefer a local core; otherwise the remotable ones. -/
  servesLocal : Bool := true
  /-- The age at which requests that prefer a remote core may be served locally; at once if there
  is none. -/
  remoteDelay : Option UInt64 := none
  /-- The pause after a failure. -/
  retryDelay : UInt64 := defaultRetryDelay
  deriving DecidableEq, Repr, Inhabited

namespace DedicatedSettings

/-- The objection to the settings, if there is one. -/
def check (s : DedicatedSettings) : Option String :=
  if s.retryDelay = 0 then some "retry_delay_ms must be greater than 0"
  else if s.remoteDelay.isSome && !s.servesLocal then
    some "remote_delay_ms only applies to local fulfillers"
  else none

end DedicatedSettings

/-- Settings of a fulfiller that draws from a roster of providers. -/
structure SpeculativeSettings where
  /-- Serve requests that require a local core too. -/
  servesLocal : Bool := false
  /-- How many attempts are kept in flight beyond the demand while there is any. -/
  slack : UInt64 := defaultSlack
  /-- The pause after a failure, during which the provider stays engaged. -/
  retryDelay : UInt64 := defaultRetryDelay
  deriving DecidableEq, Repr, Inhabited

namespace SpeculativeSettings

/-- The objection to the settings, if there is one. -/
def check (s : SpeculativeSettings) : Option String :=
  if s.retryDelay = 0 then some "retry_delay_ms must be greater than 0" else none

end SpeculativeSettings

/-- Settings of a broker. -/
structure BrokerSettings where
  /-- The fulfiller with the local provider, if there is such a provider. -/
  localSide : DedicatedSettings := {}
  /-- The fulfiller with the remote providers, if it is enabled. -/
  remoteSide : SpeculativeSettings := {}
  /-- Whether requests are fulfilled from remote providers at all. -/
  remoteEnabled : Bool := false
  deriving DecidableEq, Repr, Inhabited

namespace BrokerSettings

/-- The objection to the settings, if there is one: the local side comes first. -/
def check (s : BrokerSettings) : Option String :=
  if !s.localSide.servesLocal then some "local fulfiller must serve local requests"
  else match s.localSide.check, s.remoteSide.check with
    | some reason, _ => some ("local fulfiller invalid: " ++ reason)
    | none, some reason => some ("remote fulfiller invalid: " ++ reason)
    | none, none => none

/-- The settings, or the objection to them. -/
def checked (s : BrokerSettings) : Except String BrokerSettings :=
  match s.check with
  | some reason => .error reason
  | none => .ok s

end BrokerSettings

end CoreBroker
