import CoreBroker.World.Basic
set_option autoImplicit false

/-!
# Setting services up

How fulfillers and brokers come into the world.  Settings are checked first: a service whose settings
are objected to is not set up at all, and nothing changes.  The loops of a new service begin at once.
-/

namespace CoreBroker

namespace BrokerSettings

/-- The objection to a broker, if there is one: to its settings, or that nothing would fulfil its
requests. -/
def objection (settings : BrokerSettings) (hasProvider : Bool) : Option String :=
  match settings.check with
  | some reason => some reason
  | none =>
    if hasProvider || settings.remoteEnabled then none
    else some "pool needs a local provider or remote fulfilment"

end BrokerSettings

namespace World

/-- Sets up a dedicated fulfiller whose loop begins at once; gives its index. -/
def beginDedicated (w : World) (board : Nat) (provider : ProviderRef)
    (settings : DedicatedSettings) : Nat × World :=
  let (f, scene) := Dedicated.new board provider settings w.scene
  let i := w.dedicated.length
  (i, { w with scene := scene.spawn (.dedicated i), dedicated := w.dedicated ++ [f] })

/-- Sets up a speculative fulfiller whose loop begins at once; gives its index. -/
def beginSpeculative (w : World) (board roster : Nat) (settings : SpeculativeSettings) :
    Nat × World :=
  let (f, scene) := Speculative.new board roster settings w.scene
  let i := w.speculative.length
  (i, { w with scene := scene.spawn (.speculative i), speculative := w.speculative ++ [f] })

/-- Hands a service to the client; gives its index. -/
def addService (w : World) (service : Service) : Nat × World :=
  (w.services.length, { w with services := w.services ++ [service] })

/-- Sets up a dedicated fulfiller as a service, or says why not. -/
def newDedicated (w : World) (board roster : Nat) (provider : ProviderRef)
    (settings : DedicatedSettings) : Except (Fault Nat) (Nat × World) :=
  match settings.check with
  | some reason => .error (.invalidConfig reason)
  | none =>
    let (i, w) := w.beginDedicated board provider settings
    .ok (w.addService { board, roster, dedicated := some i })

/-- Sets up a speculative fulfiller as a service, or says why not. -/
def newSpeculative (w : World) (board roster : Nat) (settings : SpeculativeSettings) :
    Except (Fault Nat) (Nat × World) :=
  match settings.check with
  | some reason => .error (.invalidConfig reason)
  | none =>
    let (i, w) := w.beginSpeculative board roster settings
    .ok (w.addService { board, roster, speculative := some i })

/-- The fulfiller of a broker with the local provider, if there is such a provider. -/
def beginLocalSide (w : World) (board : Nat) (provider : Option ProviderRef)
    (settings : BrokerSettings) : Option Nat × World :=
  match provider with
  | some provider =>
    let (i, w) := w.beginDedicated board provider settings.localSide
    (some i, w)
  | none => (none, w)

/-- The fulfiller of a broker with the remote providers, if it is enabled. -/
def beginRemoteSide (w : World) (board roster : Nat) (settings : BrokerSettings) :
    Option Nat × World :=
  if settings.remoteEnabled then
    let (i, w) := w.beginSpeculative board roster settings.remoteSide
    (some i, w)
  else (none, w)

/-- Sets up a broker over a registry and a roster, or says why not. -/
def newBroker (w : World) (board roster : Nat) (provider : Option ProviderRef)
    (settings : BrokerSettings) : Except (Fault Nat) (Service × World) :=
  match settings.objection provider.isSome with
  | some reason => .error (.invalidConfig reason)
  | none =>
    let (dedicated, w) := w.beginLocalSide board provider settings
    let (speculative, w) := w.beginRemoteSide board roster settings
    let word (b : Bool) : Phrase Nat := .ofText (if b then "true" else "false")
    let w := w.withScene (w.scene.report .info "Worker pool created"
      [("local", word dedicated.isSome), ("remote", word speculative.isSome)])
    .ok ({ board, roster, dedicated, speculative, isBroker := true }, w)

/-! ## Where trace lines go -/

/-- Sends the trace lines of a registry to a sink. -/
def attachBoard (w : World) (sink : Trace.Sink) (b : Nat) : World :=
  w.withScene (w.scene.modifyBoard b fun board => { board with sink })

/-- Sends the trace lines of a roster to a sink. -/
def attachRoster (w : World) (sink : Trace.Sink) (r : Nat) : World :=
  w.withScene (w.scene.modifyRoster r fun roster => { roster with sink })

/-- Sends the trace lines of a dedicated fulfiller to a sink. -/
def attachDedicated (w : World) (sink : Trace.Sink) (i : Nat) : World :=
  { w with dedicated := w.dedicated.modify i fun f => { f with sink } }

/-- Sends the trace lines of a speculative fulfiller to a sink. -/
def attachSpeculative (w : World) (sink : Trace.Sink) (i : Nat) : World :=
  { w with speculative := w.speculative.modify i fun f => { f with sink } }

/-- Sends the trace lines of a service to a sink; a broker includes its registry and its roster. -/
def attachService (w : World) (sink : Trace.Sink) (service : Service) : World :=
  let w := if service.isBroker then
      (w.attachBoard sink service.board).attachRoster sink service.roster
    else w
  let w := service.dedicated.toList.foldl (·.attachDedicated sink ·) w
  service.speculative.toList.foldl (·.attachSpeculative sink ·) w

end World

end CoreBroker
