import CoreBroker.Scene.Basic
set_option autoImplicit false

/-!
# Operations on a registry

What a task does to a registry while it has the guard, with the trace lines, log lines and
announcements that go with it.  A change of the live requests or of an assignment is announced once,
with the counts as they then are; nothing else is announced.
-/

namespace CoreBroker.Scene

/-- The source named in the trace lines of a registry. -/
def requestSource : String := "requests"

/-! ## The guard -/

/-- What a task that wants the guard of a registry finds. -/
inductive Entry where
  /-- It waits for the guard. -/
  | blocked
  /-- It has joined the queue. -/
  | joined (s : Scene)
  /-- It has the guard. -/
  | entered (board : Board) (s : Scene)

/-- A task asks for the guard of a registry. -/
def enter (s : Scene) (b : Nat) (t : Task) : Entry :=
  match s.boards[b]? with
  | none => .blocked
  | some board =>
    match board.guard.enter? (.task t) with
    | some guard => .entered board (s.modifyBoard b fun board => { board with guard })
    | none =>
      match board.guard.join? (.task t) with
      | some guard => .joined (s.modifyBoard b fun board => { board with guard })
      | none => .blocked

/-- The holder gives the guard of a registry back. -/
def leave (s : Scene) (b : Nat) : Scene :=
  s.modifyBoard b fun board => { board with guard := board.guard.leave }

/-- A task gives up the guard of a registry, whether it holds it or waits for it. -/
def withdraw (s : Scene) (b : Nat) (t : Task) : Scene :=
  s.modifyBoard b fun board => { board with guard := board.guard.withdraw (.task t) }

/-! ## Operations under the guard -/

/-- Sends a trace line of a registry. -/
def traceBoard (s : Scene) (b : Nat) (message : Phrase Nat) : Scene :=
  match s.boards[b]? with
  | some board => s.trace board.sink requestSource message
  | none => s

/-- Announces the counts of a registry. -/
def announceCounts (s : Scene) (b : Nat) : Scene :=
  s.modifyBoard b fun board =>
    { board with changes := (board.changes.announce board.registry.statistics).2 }

/-- Changes the requests of a registry, if there is such a registry, and notes the change. -/
def changeRegistry (s : Scene) (b : Nat) (change : RegistryChange Core)
    (f : Registry Core → Registry Core) : Scene :=
  if b < s.boards.length then
    (s.modifyBoard b fun board => { board with registry := f board.registry }).note
      (.changed b change)
  else s

/-- A new request, not entered anywhere yet. -/
def draft (s : Scene) (preference : Preference) : Request Core × Scene :=
  let (id, s) := s.fresh
  ({ id, preference, createdAt := s.now, createdWall := s.clock.stamp }, s)

/-- Enters a request. -/
def enterRequest (s : Scene) (b : Nat) (r : Request Core) : Scene :=
  let s := s.changeRegistry b (.entered r) (·.enter r)
  let s := s.traceBoard b
    (Phrase.ofText "created request " ++ Phrase.naming r.id
      ++ Phrase.ofText (" (" ++ r.preference.label ++ ")"))
  let s := s.report .debug "core request created"
    [("request_id", .naming r.id), ("preference", .ofText r.preference.label)]
  s.announceCounts b

/-- Assigns a core to a request, or says why that cannot be; then nothing has changed. -/
def assignCore (s : Scene) (b id : Nat) (core : Core) : Except (Fault Nat) Scene :=
  match s.boards[b]? with
  | none => .error (.requestDisposed id)
  | some board =>
    match board.registry.assign id core with
    | .error e => .error e
    | .ok registry =>
      let s := s.changeRegistry b (.assigned id core) fun _ => registry
      let s := s.traceBoard b (Phrase.ofText "fulfilled request " ++ Phrase.naming id)
      let s := s.report .debug "core request fulfilled" [("request_id", .naming id)]
      .ok (s.announceCounts b)

/-- Takes a request off the list and gives back the core it still had. -/
def disposeRequest (s : Scene) (b id : Nat) : Option Core × Scene :=
  match s.boards[b]? with
  | none => (none, s)
  | some board =>
    match board.registry.get? id with
    | none => (none, s)
    | some r =>
      let s := s.changeRegistry b (.disposed id r.core) (·.dispose id)
      if r.isListed then
        let s := s.traceBoard b (Phrase.ofText "disposed request " ++ Phrase.naming id)
        let s := s.report .debug "core request disposed" [("request_id", .naming id)]
        (r.core, s.announceCounts b)
      else (r.core, s)

/-- Reserves a request. -/
def reserveRequest (s : Scene) (b id : Nat) : Scene :=
  s.changeRegistry b (.reserved id) (·.reserve id)

/-- Says that a request has been reserved. -/
def reportReserved (s : Scene) (b id : Nat) : Scene :=
  (s.traceBoard b (Phrase.ofText "reserved request " ++ Phrase.naming id)).report .trace
    "request reserved" [("request_id", .naming id)]

/-- Gives up the reservation of a request; this needs no guard and is not announced. -/
def unreserveRequest (s : Scene) (b id : Nat) : Scene :=
  s.changeRegistry b (.unreserved id) (·.unreserve id)

/-- Takes the core out of a request; this needs no guard and is not announced. -/
def takeCore (s : Scene) (b id : Nat) : Option Core × Scene :=
  match s.boards[b]? with
  | none => (none, s)
  | some board =>
    match (board.registry.get? id).bind (·.core) with
    | none => (none, s)
    | some core => (some core, s.changeRegistry b (.taken id core) (·.empty id))

/-- The request with the number `id` in a registry. -/
def request? (s : Scene) (b id : Nat) : Option (Request Core) :=
  (s.boards[b]?).bind (·.registry.get? id)

/-- Whether a request still has the core that was assigned to it. -/
def hasCore (s : Scene) (b id : Nat) : Bool := (s.request? b id).any (·.core.isSome)

/-! ## Receivers -/

/-- Whether a receiver of a registry would find anything. -/
def boardReady (s : Scene) (b receiver : Nat) : Bool :=
  (s.boards[b]?).any fun board => board.changes.isReady receiver

/-- Takes everything a receiver of a registry can get. -/
def drainBoard (s : Scene) (b receiver : Nat) : Scene :=
  s.modifyBoard b fun board => { board with changes := (board.changes.drain receiver).2 }

/-- Whether a receiver of a roster would find anything. -/
def rosterReady (s : Scene) (r receiver : Nat) : Bool :=
  (s.rosters[r]?).any fun roster => roster.changes.isReady receiver

/-- Takes everything a receiver of a roster can get. -/
def drainRoster (s : Scene) (r receiver : Nat) : Scene :=
  s.modifyRoster r fun roster => { roster with changes := (roster.changes.drain receiver).2 }

/-- A new receiver of a registry. -/
def subscribeBoard (s : Scene) (b : Nat) : Nat × Scene :=
  match s.boards[b]? with
  | none => (0, s)
  | some board =>
    let (receiver, changes) := board.changes.subscribe
    (receiver, s.modifyBoard b fun board => { board with changes })

/-- A new receiver of a roster. -/
def subscribeRoster (s : Scene) (r : Nat) : Nat × Scene :=
  match s.rosters[r]? with
  | none => (0, s)
  | some roster =>
    let (receiver, changes) := roster.changes.subscribe
    (receiver, s.modifyRoster r fun roster => { roster with changes })

/-- Gives up a receiver of a registry. -/
def unsubscribeBoard (s : Scene) (b receiver : Nat) : Scene :=
  s.modifyBoard b fun board => { board with changes := board.changes.unsubscribe receiver }

/-- Gives up a receiver of a roster. -/
def unsubscribeRoster (s : Scene) (r receiver : Nat) : Scene :=
  s.modifyRoster r fun roster => { roster with changes := roster.changes.unsubscribe receiver }

end CoreBroker.Scene
