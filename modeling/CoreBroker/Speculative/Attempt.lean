import CoreBroker.Speculative.Basic
set_option autoImplicit false

/-!
# Attempts of a speculative fulfiller

An attempt makes one call and reports its outcome to the obtainment it works for, even when it was
cancelled, so that a core that arrives late is disposed of.  After a failure it stays for a while, so
that the provider is not asked again at once.
-/

namespace CoreBroker.Speculative

/-- Changes an attempt. -/
def modifyAttempt (f : Speculative) (serial : Nat) (change : Attempt → Attempt) : Speculative :=
  { f with attempts := f.attempts.map fun a => if a.serial == serial then change a else a }

/-- An attempt goes to a point. -/
def attemptGoTo (f : Speculative) (a : Attempt) (point : AttemptPoint) : Speculative :=
  f.modifyAttempt a.serial fun a => { a with point }

/-- An attempt is over. -/
def exitAttempt (f : Speculative) (a : Attempt) (isPanic : Bool) : Speculative :=
  { f with attempts := f.attempts.filter (·.serial != a.serial)
           exits := f.exits ++ [⟨a.serial, isPanic⟩] }

/-- The call of an attempt came to an end. -/
def attemptReceive (f : Speculative) (a : Attempt) (result : CallResult) (s : Scene) :
    Speculative × Scene :=
  match result with
  | .core core => (f.attemptGoTo a (.settling (some core)), s)
  | .failed chain =>
    let s := s.report .warn "Core provider failed, retrying"
      [providerField a.provider.id, ("error", .ofText (chain.head?.getD ""))]
    let s := f.trace s
      (("provider " ++ a.provider.id ++ " failed: " ++ ": ".intercalate chain : String))
    (f.attemptGoTo a (.backingOff (s.now + f.settings.retryDelay.toNat)), s)
  | .panicked => (f.exitAttempt a true, s)

/-- The obtainments after an attempt has reported its outcome, and a core that was refused. -/
def applyOutcome (states : States Core) (a : Attempt) (core : Option Core) :
    States Core × Option Core :=
  match core, states.own? a.provider with
  | some core, some o =>
    match o.accept? a.number core with
    | some o => (states.modify a.provider.id fun _ => o, none)
    | none => (states, some core)
  | some core, none => (states, some core)
  | none, some o =>
    match o.fail? a.number with
    | some o => (states.modify a.provider.id fun _ => o, none)
    | none => (states, none)
  | none, none => (states, none)

/-- Under the guard: an attempt reports its outcome and is over, unless it has a core left to dispose
of. -/
def settle (f : Speculative) (a : Attempt) (core : Option Core) (s : Scene) :
    Speculative × Scene :=
  let (states, stale) := applyOutcome f.states a core
  let f := { f with states }.leave
  let fields := [providerField a.provider.id, ("attempt", .ofText (toString a.number))]
  match stale with
  | some core =>
    let s := s.report .debug "late core disposed" fields
    let s := f.trace s (("late core from " ++ a.provider.id ++ " disposed" : String))
    (f.attemptGoTo a .disposing, s.disposeCore core)
  | none => (f.exitAttempt a false, s.report .trace "obtainment attempt finished" fields)

/-- One step of an attempt of the fulfiller with index `me`, unless it has to wait.  Cancellation
comes before anything the provider may have done. -/
def stepAttempt (me : Nat) (f : Speculative) (a : Attempt) (s : Scene) :
    Option (Speculative × Scene) :=
  match a.point with
  | .calling call =>
    if s.isCancelled a.token then some (f.attemptGoTo a (.settling none), s.dropCall call)
    else
      match s.lookAtCall call with
      | .blocked => none
      | .moved call s => some (f.attemptGoTo a (.calling call), s)
      | .ended result s => some (f.attemptReceive a result s)
  | .backingOff wakeAt =>
    if s.isCancelled a.token || wakeAt ≤ s.now then some (f.attemptGoTo a (.settling none), s)
    else none
  | .settling core =>
    match f.enter (.attempt me a.serial) with
    | .blocked => none
    | .joined f => some (f, s)
    | .entered f => some (f.settle a core s)
  | .disposing => some (f.exitAttempt a false, s)

/-- When an attempt wakes up by itself. -/
def attemptDeadline (a : Attempt) : Option Nat :=
  match a.point with
  | .calling call => Scene.callDeadline call
  | .backingOff wakeAt => some wakeAt
  | .settling _ | .disposing => none

end CoreBroker.Speculative
