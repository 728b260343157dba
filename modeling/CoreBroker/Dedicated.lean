import CoreBroker.Scene.Calls
import CoreBroker.Scene.Requests
import CoreBroker.Settings.Basic
set_option autoImplicit false

/-!
# The dedicated fulfiller

A fulfiller with one provider of its own.  While a request it may serve is waiting it asks the
provider for a core, asks the core whether it works, and assigns it to the next request.  The core is
obtained before a request is reserved, so that requests stay visible to other fulfillers while the
provider is slow; a core that comes too late is kept for the next request.  A call is abandoned when
no request is left for it.  After a failure the fulfiller pauses and tries again.

The loop is given by the points at which it may have to wait.  `step` takes it from one point to the
next and is absent where it has to wait.
-/

namespace CoreBroker

/-- The points of the loop at which it may have to wait. -/
inductive DedicatedPoint where
  /-- Not begun. -/
  | starting
  /-- Wants the guard, to see whether a request is waiting. -/
  | demanding
  /-- Waits for the provider, its own shutdown, or a change of requests. -/
  | calling (call : Call)
  /-- Wants the guard, to see whether a request is still waiting while a call is under way. -/
  | rechecking (call : Call)
  /-- Pauses after a failure. -/
  | pausing (wakeAt : Nat)
  /-- Asks a core whether it works. -/
  | probing (core : Core) (ticket : Nat)
  /-- Waits until a core that does not work has been disposed of. -/
  | disposing
  /-- Wants the guard, to reserve a request for a core. -/
  | choosing (core : Core)
  /-- Wants the guard, to assign a core to the reserved request. -/
  | placing (core : Core) (request : Nat)
  /-- Waits for its shutdown, a change of requests, or the time to look again. -/
  | idle (lookAgainAt : Option Nat)
  /-- At the end: waits until the spare core has been disposed of. -/
  | closing
  /-- Over. -/
  | ended
  /-- Brought down by a panic of its provider. -/
  | panicked
  deriving DecidableEq, Repr, Inhabited

/-- A dedicated fulfiller. -/
structure Dedicated where
  board : Nat
  provider : ProviderRef
  settings : DedicatedSettings
  /-- Fired to shut the fulfiller down. -/
  shutdown : Token
  /-- Its receiver of the announcements of the registry. -/
  receiver : Nat
  sink : Trace.Sink := .nowhere
  /-- A core kept for the next request. -/
  spare : Option Core := none
  point : DedicatedPoint := .starting
  deriving Repr, Inhabited

namespace Dedicated

/-- The source named in the trace lines of the fulfiller. -/
def traceSource : String := "single-source"

/-- The age at which requests that prefer a remote core are offered to the fulfiller: without a
configured delay, at once. -/
def offeredDelay (f : Dedicated) : Option Nat :=
  some ((f.settings.remoteDelay.map (·.toNat)).getD 0)

/-- Whether the loop will take no further step. -/
def isOver (f : Dedicated) : Bool := f.point == .ended || f.point == .panicked

/-- The field of log lines that names the provider. -/
def providerField (f : Dedicated) : String × Phrase Nat :=
  ("provider_id", .ofText f.provider.id)

/-- Goes to a point. -/
def goTo (f : Dedicated) (point : DedicatedPoint) : Dedicated := { f with point }

/-- The loop waits until something may have changed. -/
def rest (f : Dedicated) (s : Scene) : Dedicated × Scene :=
  (f.goTo (.idle (f.settings.remoteDelay.map fun delay => s.now + delay.toNat)), s)

/-- The fulfiller works on a core: it is asked whether it works. -/
def probe (f : Dedicated) (core : Core) (s : Scene) : Dedicated × Scene :=
  let (ticket, s) := s.fresh
  (f.goTo (.probing core ticket), s)

/-- The head of a pass: with a spare core it goes to work, without one it looks for demand. -/
def pass (f : Dedicated) (s : Scene) : Dedicated × Scene :=
  if s.isCancelled f.shutdown then f.rest s
  else
    match f.spare with
    | some core => { f with spare := none }.probe core s
    | none => (f.goTo .demanding, s)

/-- The end of the loop. -/
def finish (f : Dedicated) (s : Scene) : Dedicated × Scene :=
  let s := s.report .debug "single-source control loop stopped" [f.providerField]
  (f.goTo .ended, s.unsubscribeBoard f.board f.receiver)

/-- The loop is to end: a spare core is disposed of first. -/
def close (f : Dedicated) (s : Scene) : Dedicated × Scene :=
  match f.spare with
  | some core => ({ f with spare := none }.goTo .closing, s.disposeCore core)
  | none => f.finish s

/-- The head of the loop. -/
def turn (f : Dedicated) (s : Scene) : Dedicated × Scene :=
  if s.isCancelled f.shutdown then f.close s else f.pass s

/-- Whether a request the fulfiller may serve is waiting. -/
def hasDemand (f : Dedicated) (board : Board) (s : Scene) : Bool :=
  board.registry.hasNext f.settings.servesLocal f.offeredDelay s.now

/-- Asks the provider for a core. -/
def call (f : Dedicated) (s : Scene) : Dedicated × Scene :=
  let (number, s) := s.fresh
  let (call, s) := s.newCall f.provider.serial (f.shutdown.child number)
  (f.goTo (.calling call), s)

/-- A call came to an end. -/
def receive (f : Dedicated) (result : CallResult) (s : Scene) : Dedicated × Scene :=
  match result with
  | .core core => f.probe core s
  | .failed chain =>
    let s := s.report .warn "Core provider failed, retrying"
      [f.providerField, ("error", .ofText (chain.head?.getD ""))]
    let s := s.trace f.sink traceSource (("provider failed: " ++ ": ".intercalate chain : String))
    (f.goTo (.pausing (s.now + f.settings.retryDelay.toNat)), s)
  | .panicked => (f.goTo .panicked, s.unsubscribeBoard f.board f.receiver)

/-- A probe answered; a core that does not work is disposed of. -/
def judge (f : Dedicated) (core : Core) (isAlive : Bool) (s : Scene) : Dedicated × Scene :=
  if isAlive then (f.goTo (.choosing core), s)
  else
    let s := s.report .debug "Obtained core is not alive, disposing" [f.providerField]
    let s := s.trace f.sink traceSource (("dead core disposed" : String))
    (f.goTo .disposing, s.disposeCore core)

/-- Under the guard: reserves the next request for a core, or keeps the core as a spare. -/
def choose (f : Dedicated) (core : Core) (board : Board) (s : Scene) : Dedicated × Scene :=
  match board.registry.next? f.settings.servesLocal f.offeredDelay s.now with
  | none =>
    let s := s.leave f.board
    let s := s.report .trace "no request left, keeping core" [f.providerField]
    { f with spare := some core }.rest s
  | some r =>
    let s := (s.reserveRequest f.board r.id).leave f.board
    let s := s.reportReserved f.board r.id
    (f.goTo (.placing core r.id), s.note (.offered f.board r.id core))

/-- Under the guard: assigns a core to the reserved request.  A refused core becomes the spare. -/
def place (f : Dedicated) (core : Core) (request : Nat) (s : Scene) : Dedicated × Scene :=
  match s.assignCore f.board request core with
  | .ok s =>
    let s := s.leave f.board
    let s := s.report .trace "request fulfilled"
      [f.providerField, ("request_id", .naming request)]
    let s := s.trace f.sink traceSource
      (Phrase.ofText "fulfilled request " ++ Phrase.naming request)
    f.pass (s.unreserveRequest f.board request)
  | .error reason =>
    let s := (s.note (.refused f.board request core)).leave f.board
    let s := s.report .debug "core rejected, keeping it"
      [("request_id", .naming request), ("reason", reason.message)]
    { f with spare := some core }.pass (s.unreserveRequest f.board request)

/-- One step of the loop of the fulfiller with index `me`, unless it has to wait.  Shutdown comes
before everything else that may have happened, then the provider, then the requests, then the
time. -/
def step (me : Nat) (f : Dedicated) (s : Scene) : Option (Dedicated × Scene) :=
  match f.point with
  | .starting =>
    some (f.turn (s.report .debug "single-source control loop started" [f.providerField]))
  | .demanding =>
    match s.enter f.board (.dedicated me) with
    | .blocked => none
    | .joined s => some (f, s)
    | .entered board s =>
      if f.hasDemand board s then some (f.call (s.leave f.board))
      else some (f.rest (s.leave f.board))
  | .calling call =>
    if s.isCancelled f.shutdown then some (f.rest (s.dropCall call))
    else
      match s.lookAtCall call with
      | .ended result s => some (f.receive result s)
      | .moved call s => some (f.goTo (.calling call), s)
      | .blocked =>
        if s.boardReady f.board f.receiver then
          some (f.goTo (.rechecking call), s.drainBoard f.board f.receiver)
        else none
  | .rechecking call =>
    match s.enter f.board (.dedicated me) with
    | .blocked => none
    | .joined s => some (f, s)
    | .entered board s =>
      if f.hasDemand board s then some (f.goTo (.calling call), s.leave f.board)
      else
        let s := (s.leave f.board).fire call.token
        let s := s.report .debug "no request left, provider call abandoned" [f.providerField]
        some (f.rest (s.dropCall call))
  | .pausing wakeAt =>
    if s.isCancelled f.shutdown || wakeAt ≤ s.now then some (f.pass s) else none
  | .probing core ticket =>
    match s.lookAtProbe core ticket f.shutdown with
    | .blocked => none
    | .moved s => some (f, s)
    | .answered isAlive s => some (f.judge core isAlive s)
  | .disposing => some (f.pass s)
  | .choosing core =>
    match s.enter f.board (.dedicated me) with
    | .blocked => none
    | .joined s => some (f, s)
    | .entered board s => some (f.choose core board s)
  | .placing core request =>
    match s.enter f.board (.dedicated me) with
    | .blocked => none
    | .joined s => some (f, s)
    | .entered _ s => some (f.place core request s)
  | .idle lookAgainAt =>
    if s.isCancelled f.shutdown then some (f.close s)
    else if s.boardReady f.board f.receiver || lookAgainAt.any (· ≤ s.now) then
      some (f.turn (s.drainBoard f.board f.receiver))
    else none
  | .closing => some (f.finish s)
  | .ended | .panicked => none

/-- When the loop wakes up by itself. -/
def deadline (f : Dedicated) : Option Nat :=
  match f.point with
  | .calling call => Scene.callDeadline call
  | .pausing wakeAt => some wakeAt
  | .idle lookAgainAt => lookAgainAt
  | _ => none

/-- A new fulfiller.  It has a receiver from now on; its loop has not begun. -/
def new (board : Nat) (provider : ProviderRef) (settings : DedicatedSettings) (s : Scene) :
    Dedicated × Scene :=
  let (number, s) := s.fresh
  let (receiver, s) := s.subscribeBoard board
  let s := s.report .info "Starting single-source fulfiller"
    [("provider_id", .ofText provider.id),
     ("fulfills_local", .ofText (if settings.servesLocal then "true" else "false"))]
  ({ board, provider, settings, shutdown := { number }, receiver }, s)

end Dedicated

end CoreBroker
