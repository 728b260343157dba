import CoreBroker.Scene.Calls
import CoreBroker.Scene.Requests
import CoreBroker.Settings.Basic
import CoreBroker.Speculative.States
set_option autoImplicit false

/-!
# The speculative fulfiller: its parts

A fulfiller that draws from a roster of providers which are slow and come and go.  It asks several of
them at once and keeps whichever cores arrive first.  It consists of a loop and of attempts, each a
task of its own; they share the obtainments, which have a guard.
-/

namespace CoreBroker

/-- The points of an attempt at which it may have to wait. -/
inductive AttemptPoint where
  /-- Waits for the provider or for its own cancellation. -/
  | calling (call : Call)
  /-- The provider failed; it stays engaged until the pause is over. -/
  | backingOff (wakeAt : Nat)
  /-- Wants the guard of the obtainments, to report its outcome. -/
  | settling (core : Option Core)
  /-- Waits until a core that was refused has been disposed of. -/
  | disposing
  deriving DecidableEq, Repr, Inhabited

/-- An attempt to obtain a core from one provider. -/
structure Attempt where
  /-- Its number among all tasks. -/
  serial : Nat
  /-- Its number among the attempts on the same obtainment. -/
  number : Nat
  provider : ProviderRef
  /-- Fired when the attempt is no longer wanted. -/
  token : Token
  point : AttemptPoint
  deriving DecidableEq, Repr, Inhabited

/-- The exit of an attempt that the loop has not taken notice of yet. -/
structure Exit where
  serial : Nat
  isPanic : Bool
  deriving DecidableEq, Repr, Inhabited

/-- Whom an attempt works for. -/
structure Owner where
  serial : Nat
  provider : ProviderRef
  number : Nat
  deriving DecidableEq, Repr, Inhabited

/-- A core that was taken out of an obtainment, with the id of its provider. -/
abbrev Ready := String × Core

/-- The points of the loop at which it may have to wait. -/
inductive SpeculativePoint where
  /-- Not begun. -/
  | starting
  /-- Wants the guard of the obtainments, to begin a pass. -/
  | reconciling
  /-- In a pass: wants the guard of the registry, to count the requests. -/
  | counting (discarded : List Core)
  /-- In a pass: asks a held core whether it works. -/
  | probing (pending : Nat) (ready : List Ready) (held : Ready) (ticket : Nat)
      (holders : List String) (discarded : List Core)
  /-- In a pass: wants the guard of the registry, to assign cores. -/
  | matching (ready : List Ready) (discarded : List Core)
  /-- At the end of a pass: waits until a core has been disposed of, with others to follow. -/
  | discarding (others : List Core)
  /-- Waits for its shutdown, the exit of an attempt, or a change. -/
  | idle
  /-- Wants the guard of the obtainments, to record a panic. -/
  | recording (owner : Owner)
  /-- Pauses after a panic. -/
  | pausing (wakeAt : Nat)
  /-- Wants the guard of the obtainments, to give everything up. -/
  | releasing
  /-- Everything was given up: waits until a core has been disposed of, with others to follow. -/
  | dissolving (others : List Core)
  /-- Waits for the attempts to exit. -/
  | joining
  /-- Over. -/
  | ended
  deriving DecidableEq, Repr, Inhabited

/-- A speculative fulfiller. -/
structure Speculative where
  board : Nat
  roster : Nat
  settings : SpeculativeSettings
  /-- Fired to shut the fulfiller down. -/
  shutdown : Token
  /-- Its receiver of the announcements of the registry. -/
  requestReceiver : Nat
  /-- Its receiver of the announcements of the roster. -/
  rosterReceiver : Nat
  sink : Trace.Sink := .nowhere
  states : States Core := []
  /-- The guard of the obtainments. -/
  guard : Guard Task := {}
  /-- The attempts under way. -/
  attempts : List Attempt := []
  /-- The exits the loop has not taken notice of, oldest first. -/
  exits : List Exit := []
  owners : List Owner := []
  point : SpeculativePoint := .starting
  deriving Repr, Inhabited

namespace Speculative

/-- The source named in the trace lines of the fulfiller. -/
def traceSource : String := "multi-source"

/-- The requests the fulfiller may look at. -/
def constraint (f : Speculative) : Constraint :=
  if f.settings.servesLocal then .all else .localPreferredAndRemote

/-- Whether the loop will take no further step. -/
def isOver (f : Speculative) : Bool := f.point == .ended

/-- Goes to a point. -/
def goTo (f : Speculative) (point : SpeculativePoint) : Speculative := { f with point }

/-- Sends a trace line. -/
def trace (f : Speculative) (s : Scene) (message : Phrase Nat) : Scene :=
  s.trace f.sink traceSource message

/-- The field of log lines that names a provider. -/
def providerField (id : String) : String × Phrase Nat := ("provider_id", .ofText id)

/-- The guard of the obtainments given back. -/
def leave (f : Speculative) : Speculative := { f with guard := f.guard.leave }

/-- What a task that wants the guard of the obtainments finds. -/
inductive Entry where
  | blocked
  | joined (f : Speculative)
  | entered (f : Speculative)

/-- A task asks for the guard of the obtainments. -/
def enter (f : Speculative) (t : Task) : Entry :=
  match f.guard.enter? t with
  | some guard => .entered { f with guard }
  | none =>
    match f.guard.join? t with
    | some guard => .joined { f with guard }
    | none => .blocked

/-- A new fulfiller.  It has its receivers from now on; its loop has not begun. -/
def new (board roster : Nat) (settings : SpeculativeSettings) (s : Scene) :
    Speculative × Scene :=
  let (number, s) := s.fresh
  let providers := ((s.rosters[roster]?).map (·.members.length)).getD 0
  let (requestReceiver, s) := s.subscribeBoard board
  let (rosterReceiver, s) := s.subscribeRoster roster
  let f : Speculative :=
    { board, roster, settings, shutdown := { number }, requestReceiver, rosterReceiver }
  let s := s.report .info "Starting multi-source fulfiller"
    [("providers", .ofText (toString providers)),
     ("slack", .ofText (toString settings.slack.toNat)),
     ("constraint", .ofText f.constraint.label)]
  (f, s)

end Speculative

end CoreBroker
