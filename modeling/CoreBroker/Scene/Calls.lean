import CoreBroker.Scene.Basic
set_option autoImplicit false

/-!
# Calls and probes

A call is a request for a core to a provider, under way.  It may rest for some time and may wait for a
permit; while it does either, the firing of its token ends it, and whoever made it may drop it.  A
probe asks a core whether it still works; behind a gate the answer waits for a permit or for the
token of the probe.
-/

namespace CoreBroker

/-- Where a call stands. -/
inductive CallPoint where
  /-- The provider has not been asked yet. -/
  | fresh
  /-- Resting until some time. -/
  | resting (plan : Plan) (wakeAt : Nat)
  /-- Waiting for a permit to release a core. -/
  | awaiting (plan : Plan)
  /-- Waiting for a slot. -/
  | queueing
  deriving DecidableEq, Repr, Inhabited

/-- A request for a core to the provider with the serial `provider`. -/
structure Call where
  /-- The ticket under which the call waits for permits. -/
  ticket : Nat
  provider : Nat
  token : Token
  point : CallPoint := .fresh
  deriving DecidableEq, Repr, Inhabited

/-- How a call ended. -/
inductive CallResult where
  | core (c : Core)
  /-- What went wrong, and why, and so on. -/
  | failed (chain : List String)
  | panicked
  deriving DecidableEq, Repr, Inhabited

/-- What a look at a call finds. -/
inductive CallLook where
  /-- It is waiting for something. -/
  | blocked
  /-- It has gone on to wait for something else. -/
  | moved (call : Call) (s : Scene)
  /-- It has ended. -/
  | ended (result : CallResult) (s : Scene)

namespace Scene

/-- A new call. -/
def newCall (s : Scene) (provider : Nat) (token : Token) : Call × Scene :=
  let (ticket, s) := s.fresh
  ({ ticket, provider, token }, s)

/-- A provider hands out its next core. -/
def issueCore (s : Scene) (p : Nat) (provider : Provider) (liveness : Liveness) : Core × Scene :=
  let number := provider.issued + 1
  let s := s.modifyProvider p fun provider => { provider with issued := number }
  s.mint provider.handle number provider.ref.id liveness

/-- The core that a plan comes to. -/
def issuePlanned (s : Scene) (p : Nat) (provider : Provider) (plan : Plan) : CallLook :=
  let (core, s) := s.issueCore p provider plan.liveness
  let s := if plan.isAlive then s else s.killCore core
  .ended (.core core) (s.note (.issued provider.handle))

/-- What the last link of a chain of errors says when a call was cancelled. -/
def cancelledChain : List String := ["cancelled"]

/-- A call goes on with its plan once it has rested. -/
def followPlan (s : Scene) (call : Call) (provider : Provider) (plan : Plan) : CallLook :=
  match plan.course with
  | .core => s.issuePlanned call.provider provider plan
  | .release => .moved { call with point := .awaiting plan } s
  | .fail chain => .ended (.failed chain) (s.note (.failed provider.handle))
  | .panic => .ended .panicked (s.note (.panicked provider.handle))

/-- A call is cancelled while it waits. -/
def cancelCall (s : Scene) (provider : Provider) : CallLook :=
  .ended (.failed cancelledChain) (s.note (.abandoned provider.handle))

/-- Gives up the ticket of a call. -/
def withdrawTicket (s : Scene) (call : Call) : Scene :=
  s.modifyProvider call.provider fun provider =>
    provider.setPermits (provider.permits.withdraw call.ticket)

/-- Replaces the permits of a provider. -/
def setPermits (s : Scene) (p : Nat) (permits : Permits) : Scene :=
  s.modifyProvider p (·.setPermits permits)

/-- Looks at a call to a provider of slots. -/
def lookAtSlot (s : Scene) (call : Call) (provider : Provider) : CallLook :=
  let id := provider.ref.id
  if s.isCancelled call.token then
    .ended (.failed ["core request to " ++ id ++ " cancelled"]) (s.withdrawTicket call)
  else
    match provider.permits.look call.ticket with
    | .waiting => .blocked
    | .joined permits =>
      .moved { call with point := .queueing } (s.setPermits call.provider permits)
    | .refused permits =>
      .ended (.failed ["provider " ++ id ++ " is closed"]) (s.setPermits call.provider permits)
    | .got permits =>
      let s := s.setPermits call.provider permits
      let (core, s) := s.issueCore call.provider provider (.slot call.provider)
      .ended (.core core)
        (s.report .trace "slot acquired"
          [("provider_id", .ofText id), ("core", .ofText (toString core.number))])

/-- Looks at a call to a provider with a script. -/
def lookAtPlanned (s : Scene) (call : Call) (provider : Provider) : CallLook :=
  match call.point with
  | .fresh =>
    let (plan, used) := provider.nextPlan
    let s := (s.modifyProvider call.provider fun _ => used).note (.called provider.handle)
    if plan.after = 0 then s.followPlan call used plan
    else .moved { call with point := .resting plan (s.now + plan.after) } s
  | .resting plan wakeAt =>
    if s.isCancelled call.token then s.cancelCall provider
    else if wakeAt ≤ s.now then s.followPlan call provider plan
    else .blocked
  | .awaiting plan =>
    if s.isCancelled call.token then (s.withdrawTicket call).cancelCall provider
    else
      match provider.permits.look call.ticket with
      | .waiting | .refused _ => .blocked
      | .joined permits => .moved call (s.setPermits call.provider permits)
      | .got permits =>
        (s.setPermits call.provider permits).issuePlanned call.provider
          (provider.setPermits permits) plan
  | .queueing => .blocked

/-- Looks at a call. -/
def lookAtCall (s : Scene) (call : Call) : CallLook :=
  match s.providers[call.provider]? with
  | none => .blocked
  | some provider =>
    match provider.stock with
    | .slots _ _ => s.lookAtSlot call provider
    | .scripted _ _ => s.lookAtPlanned call provider

/-- Drops a call that is under way. -/
def dropCall (s : Scene) (call : Call) : Scene :=
  match s.providers[call.provider]?, call.point with
  | _, .fresh => s
  | none, _ => s
  | some _, .queueing => s.withdrawTicket call
  | some provider, .awaiting _ => (s.withdrawTicket call).note (.abandoned provider.handle)
  | some provider, .resting _ _ => s.note (.abandoned provider.handle)

/-- When a call wakes up by itself. -/
def callDeadline (call : Call) : Option Nat :=
  match call.point with
  | .resting _ wakeAt => some wakeAt
  | _ => none

/-! ## Probes -/

/-- What a look at a probe finds. -/
inductive ProbeLook where
  | blocked
  | moved (s : Scene)
  | answered (isAlive : Bool) (s : Scene)

/-- Looks at the probe of a core; `ticket` is what it waits with at a gate. -/
def lookAtProbe (s : Scene) (core : Core) (ticket : Nat) (token : Token) : ProbeLook :=
  match core.liveness with
  | .gated gate =>
    if s.isCancelled token then
      .answered (s.isAlive core) (s.setGate gate ((s.gate gate).withdraw ticket))
    else
      match (s.gate gate).look ticket with
      | .waiting | .refused _ => .blocked
      | .joined permits => .moved (s.setGate gate permits)
      | .got permits => .answered (s.isAlive core) (s.setGate gate permits)
  | _ => .answered (s.isAlive core) s

/-- Drops a probe that is under way; its core is let go of. -/
def dropProbe (s : Scene) (core : Core) (ticket : Nat) : Scene :=
  match core.liveness with
  | .gated gate => s.setGate gate ((s.gate gate).withdraw ticket)
  | _ => s.giveBackSlot core

end Scene

end CoreBroker
