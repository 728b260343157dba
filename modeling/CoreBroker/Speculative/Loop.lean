import CoreBroker.Speculative.Pass
set_option autoImplicit false

/-!
# The loop of a speculative fulfiller

A pass is made whenever requests change, the roster changes, or an attempt exits.  When an attempt
panics its obtainment is failed on its behalf and the loop pauses.  At the end everything is given up
and every attempt is waited for.
-/

namespace CoreBroker.Speculative

variable (chance : Chance)

/-- The head of the loop. -/
def turn (f : Speculative) (s : Scene) : Speculative × Scene :=
  if s.isCancelled f.shutdown then (f.goTo .releasing, s) else (f.goTo .reconciling, s)

/-- Takes everything from both receivers: the next pass looks at the registries anyway. -/
def drain (f : Speculative) (s : Scene) : Scene :=
  (s.drainBoard f.board f.requestReceiver).drainRoster f.roster f.rosterReceiver

/-- Takes notice of the exit of an attempt. -/
def noticeExit (f : Speculative) (exit : Exit) (s : Scene) : Speculative × Scene :=
  let owner := f.owners.find? (·.serial == exit.serial)
  let f := { f with owners := f.owners.filter (·.serial != exit.serial) }
  if exit.isPanic then
    let id := (owner.map (·.provider.id)).getD "<unknown>"
    let s := s.report .error "Obtainment attempt panicked" [providerField id]
    let s := f.trace s (("attempt for provider " ++ id ++ " panicked" : String))
    match owner with
    | some owner => (f.goTo (.recording owner), s)
    | none => (f.goTo (.pausing (s.now + f.settings.retryDelay.toNat)), s)
  else f.turn s

/-- Under the guard of the obtainments: fails the attempt that panicked, if it is still the current
one. -/
def recordPanic (f : Speculative) (owner : Owner) (s : Scene) : Speculative × Scene :=
  let states :=
    match (f.states.own? owner.provider).bind (·.fail? owner.number) with
    | some o => f.states.modify owner.provider.id fun _ => o
    | none => f.states
  ({ f with states }.leave.goTo (.pausing (s.now + f.settings.retryDelay.toNat)), s)

/-- Under the guard of the obtainments: gives everything up and goes on to dispose of the held
cores. -/
def releaseAll (f : Speculative) (s : Scene) : Speculative × Scene :=
  let s := (f.states.filterMap (·.inFlight?)).foldl Scene.fire s
  let held := f.states.filterMap (·.heldCore?)
  { f with states := f.states.map Obtainment.release }.leave.disposeInTurn s .dissolving .joining held

/-- Takes notice of an exit during shutdown. -/
def noticeLateExit (f : Speculative) (exit : Exit) (s : Scene) : Speculative × Scene :=
  (f, if exit.isPanic then s.report .error "Obtainment attempt panicked during shutdown" [] else s)

/-- The end of the loop. -/
def finish (f : Speculative) (s : Scene) : Speculative × Scene :=
  let s := s.report .debug "multi-source control loop stopped" []
  let s := (s.unsubscribeBoard f.board f.requestReceiver).unsubscribeRoster f.roster
    f.rosterReceiver
  ({ f with owners := [] }.goTo .ended, s)

/-- One step of the loop of the fulfiller with index `me`, unless it has to wait.  Shutdown comes
before everything else that may have happened, then exits, then the requests, then the roster. -/
def step (me : Nat) (f : Speculative) (s : Scene) : Option (Speculative × Scene) :=
  match f.point with
  | .starting => some (f.turn (s.report .debug "multi-source control loop started" []))
  | .reconciling =>
    match f.enter (.speculative me) with
    | .blocked => none
    | .joined f => some (f, s)
    | .entered f => some (f.reconcile s)
  | .counting discarded =>
    match s.enter f.board (.speculative me) with
    | .blocked => none
    | .joined s => some (f, s)
    | .entered board s => some (f.count chance discarded board s)
  | .probing pending ready held ticket holders discarded =>
    match s.lookAtProbe held.2 ticket f.shutdown with
    | .blocked => none
    | .moved s => some (f, s)
    | .answered isAlive s => some (f.judge pending ready held holders discarded isAlive s)
  | .matching ready discarded =>
    match s.enter f.board (.speculative me) with
    | .blocked => none
    | .joined s => some (f, s)
    | .entered board s => some (f.finishPass chance me ready discarded board s)
  | .discarding others => some (f.disposeInTurn s .discarding .idle others)
  | .idle =>
    if s.isCancelled f.shutdown then some (f.goTo .releasing, s)
    else
      match f.exits with
      | exit :: exits => some ({ f with exits }.noticeExit exit (f.drain s))
      | [] =>
        if s.boardReady f.board f.requestReceiver || s.rosterReady f.roster f.rosterReceiver then
          some (f.turn (f.drain s))
        else none
  | .recording owner =>
    match f.enter (.speculative me) with
    | .blocked => none
    | .joined f => some (f, s)
    | .entered f => some (f.recordPanic owner s)
  | .pausing wakeAt =>
    if s.isCancelled f.shutdown || wakeAt ≤ s.now then some (f.turn s) else none
  | .releasing =>
    match f.enter (.speculative me) with
    | .blocked => none
    | .joined f => some (f, s)
    | .entered f => some (f.releaseAll s)
  | .dissolving others => some (f.disposeInTurn s .dissolving .joining others)
  | .joining =>
    match f.exits with
    | exit :: exits => some ({ f with exits }.noticeLateExit exit s)
    | [] => if f.attempts.isEmpty then some (f.finish s) else none
  | .ended => none

/-- When the loop wakes up by itself. -/
def deadline (f : Speculative) : Option Nat :=
  match f.point with
  | .pausing wakeAt => some wakeAt
  | _ => none

end CoreBroker.Speculative
