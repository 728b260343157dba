import CoreBroker.Scenario.Perform
set_option autoImplicit false

/-!
# Running scenarios

Each step is performed, then all tasks are let run until none can go on.  What the step gives is then
collected, and with it what earlier steps were still waiting for.  Requests are named in the order in
which they are first mentioned: in what the step gives, then in what was waited for, then in the list
of live requests.
-/

namespace CoreBroker.Scenario

/-- What is shown after a step. -/
structure Answer where
  result : Outcome String
  /-- What earlier steps were still waiting for, with the numbers of those steps. -/
  late : List (Nat × Outcome String)
  /-- The counts of live requests; absent while a snapshot is held. -/
  counts : Option Statistics
  /-- The names of the cores that were disposed of. -/
  disposed : List String
  /-- What happened to requests for cores to scripted providers. -/
  calls : List String
  deriving Repr

namespace State

/-! ## Collecting replies -/

/-- A handle for a request that was created. -/
def addHandle (s : State) (board id : Nat) : State :=
  { s with handles := s.handles ++ [⟨board, id⟩] }

/-- The outcome that the reply of an errand stands for. -/
def outcomeOf (s : State) : Reply → Outcome Nat × State
  | .created board id => (.request id, s.addHandle board id)
  | .createdMany board ids =>
    (.requests ids, ids.foldl (fun s id => s.addHandle board id) s)
  | .fulfilled => (.fulfilled, s)
  | .core c => (.core c.name c.providerId c.number, s)
  | .done => (.nothing, s)
  | .number n => (.number n, s)
  | .statistics x => (.statistics x, s)
  | .counts x => (.counts x, s)
  | .summaries xs => (.summaries xs, s)
  | .truth b => (.truth b, s)
  | .reserved lock =>
    (.lock ("l" ++ toString s.locks.length) lock.request, { s with locks := s.locks ++ [lock] })
  | .nothing => (.nothing, s)
  | .snapshot snapshot =>
    (.snapshot ("s" ++ toString s.snapshots.length) snapshot.requests,
      { s with snapshots := s.snapshots ++ [snapshot] })
  | .accepted => (.accepted, s)
  | .refused r => (.refused r.core.name r.reason, s)
  | .fault f => (.fault f, s)
  | .failed chain => (.failed chain, s)
  | .panicked => (.panicked, s)
  | .sightings xs => (.sightings xs, s)
  | .down => (.down, s)

/-- The outcome of an errand, if it is over. -/
def reply? (s : State) (errand : Nat) : Option (Outcome Nat × State) :=
  (s.world.replies.find? (·.1 == errand)).map fun (_, r) =>
    let w := { s.world with replies := s.world.replies.filter (·.1 != errand) }
    { s with scheduler := { s.scheduler with world := w } }.outcomeOf r

/-- The outcome of an errand, or the number of the step that waits for it from now on. -/
def collectErrand (s : State) (errand : Nat) : Outcome Nat × State :=
  match s.reply? errand with
  | some (o, s) => (o, s)
  | none =>
    (.pending s.pendingCount,
      { s with pending := s.pending ++ [(s.pendingCount, errand)]
               pendingCount := s.pendingCount + 1 })

mutual
/-- What a step gives once tasks have run. -/
def collect (s : State) : Begun → Outcome Nat × State
  | .over o => (o, s)
  | .underWay errand => s.collectErrand errand
  | .batch xs =>
    let (xs, s) := s.collectAll xs
    (.batch xs, s)

/-- What steps give once tasks have run. -/
def collectAll (s : State) : List Begun → List (Outcome Nat) × State
  | [] => ([], s)
  | x :: rest =>
    let (x, s) := s.collect x
    let (rest, s) := s.collectAll rest
    (x :: rest, s)
end

/-- What earlier steps were waiting for and has come in. -/
def collectLate (s : State) : List (Nat × Nat) → List (Nat × Outcome Nat) × State
  | [] => ([], s)
  | (number, errand) :: rest =>
    match s.reply? errand with
    | none => s.collectLate rest
    | some (o, s) =>
      let (late, s) :=
        { s with pending := s.pending.filter (·.1 != number) }.collectLate rest
      ((number, o) :: late, s)

/-! ## Showing -/

/-- Names whatever requests an outcome mentions. -/
def name (s : State) (o : Outcome Nat) : Outcome String × State :=
  let (o, names) := (Names.outcome o).run s.names
  (if s.isAnonymous then o.hide else o, { s with names })

/-- Names whatever requests the outcomes of earlier steps mention. -/
def nameLate (s : State) : List (Nat × Outcome Nat) → List (Nat × Outcome String) × State
  | [] => ([], s)
  | (number, o) :: rest =>
    let (o, s) := s.name o
    let (rest, s) := s.nameLate rest
    ((number, o) :: rest, s)

/-- Names the live requests. -/
def nameListed (s : State) : State :=
  let (_, names) := (s.registry.listed.mapM fun r => Names.nameOf r.id).run s.names
  { s with names }

/-- A name of a provider as it is shown. -/
def showName (s : State) (name : String) : String :=
  if s.isAnonymous then Outcome.hidden else name

/-- The core that an event disposes of. -/
def disposedCore? : Event → Option Core
  | .disposed core => some core
  | _ => none

/-- The provider of an event about a request for a core, and what happened. -/
def callEvent? : Event → Option (String × String)
  | .called handle => some (handle, "called")
  | .issued handle => some (handle, "issued")
  | .failed handle => some (handle, "failed")
  | .panicked handle => some (handle, "panicked")
  | .abandoned handle => some (handle, "abandoned")
  | _ => none

/-- The events since the last look, newest first. -/
def news (s : State) : List Event :=
  s.scene.journal.take (s.scene.journal.length - s.journaled)

/-- Takes note that everything has been looked at. -/
def seen (s : State) : State := { s with journaled := s.scene.journal.length }

/-- Performs a step, lets tasks run, and shows what came of it. -/
def turn (s : State) (step : Step) : Answer × State :=
  let waiting := s.pending
  let (begun, s) := s.perform step
  let s := { s with scheduler := s.scheduler.settle .plain }
  let (result, s) := s.collect begun
  let (late, s) := s.collectLate waiting
  let (result, s) := s.name result
  let (late, s) := s.nameLate late
  let s := if s.isFrozen then s else s.nameListed
  ({ result, late
     counts := if s.isFrozen then none else some s.registry.statistics
     disposed := sorted ((s.news.filterMap disposedCore?).map fun core => s.showName core.name)
     calls := sorted ((s.news.filterMap callEvent?).map fun (handle, deed) =>
       s.showName handle ++ " " ++ deed) },
    s.seen)

/-- Takes all steps, one after the other. -/
def turns (s : State) : List Step → List Answer × State
  | [] => ([], s)
  | step :: rest =>
    let (answer, s) := s.turn step
    let (answers, s) := s.turns rest
    (answer :: answers, s)

end State

/-- Runs a scenario; there is no answer if it broke down. -/
def run (listening : Option Log.Level) (isAnonymous : Bool) (traceLimit : Option Nat)
    (steps : List Step) : Option (List Answer) :=
  let (answers, s) := (State.start listening isAnonymous traceLimit).turns steps
  if s.isBroken then none else some answers

end CoreBroker.Scenario
