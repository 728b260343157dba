import CoreBroker.Chance
import CoreBroker.Speculative.Attempt
set_option autoImplicit false

/-!
# Passes of a speculative fulfiller

A pass brings everything in line with the world as it is: the obtainments with the roster, the held
cores with the waiting requests, and the number of engaged providers with the demand.  It has the
guard of the obtainments until nothing is left to do but dispose of cores.  Cores are asked whether they
work before the guard of the registry is taken, and those that have to be disposed of are gathered until
the end and then disposed of one after the other.
-/

namespace CoreBroker.Speculative

variable (chance : Chance)

/-! ## Reconciling -/

/-- A provider has gone: an attempt on it is cancelled. -/
def dropProvider (f : Speculative) (s : Scene) (o : Obtainment Core) : Scene :=
  let s := (o.inFlight?.toList).foldl Scene.fire s
  let s := s.report .debug "provider removed or replaced, obtainment state dropped"
    [providerField o.provider.id]
  f.trace s (("dropped provider " ++ o.provider.id : String))

/-- A provider has come. -/
def trackProvider (f : Speculative) (s : Scene) (p : ProviderRef) : Scene :=
  let s := s.report .debug "provider tracked" [providerField p.id]
  f.trace s (("tracking provider " ++ p.id : String))

/-- Brings the obtainments in line with the roster. -/
def reconcile (f : Speculative) (s : Scene) : Speculative × Scene :=
  let current := ((s.rosters[f.roster]?).map (·.members)).getD []
  let departed := f.states.departed current
  let s := departed.foldl f.dropProvider s
  let s := (f.states.arrived current).foldl f.trackProvider s
  ({ f with states := f.states.sync current }.goTo
    (.counting (departed.filterMap Obtainment.heldCore?)), s)

/-! ## Held cores -/

/-- Takes the next held core to be asked whether it works; when there are as many cores as requests,
or no more cores, goes on to matching. -/
def nextHolder (f : Speculative) (pending : Nat) (ready : List Ready) (discarded : List Core)
    (s : Scene) : List String → Speculative × Scene
  | [] => (f.goTo (.matching ready discarded), s)
  | id :: rest =>
    if pending ≤ ready.length then (f.goTo (.matching ready discarded), s)
    else
      match f.states.takeCore? id with
      | some (core, states) =>
        let (ticket, s) := s.fresh
        ({ f with states }.goTo (.probing pending ready (id, core) ticket rest discarded), s)
      | none => nextHolder f pending ready discarded s rest

/-- The ids of the providers whose cores are tried, in the order in which they are. -/
def drawHolders (f : Speculative) (s : Scene) : List String × Scene :=
  (chance.order s.draws f.states.holders, { s with draws := s.draws + 1 })

/-- Under the guard of the registry: counts the requests that wait. -/
def count (f : Speculative) (discarded : List Core) (board : Board) (s : Scene) :
    Speculative × Scene :=
  let pending := board.registry.candidateCount f.constraint
  let s := s.leave f.board
  if pending = 0 then (f.goTo (.matching [] discarded), s)
  else
    let (holders, s) := f.drawHolders chance s
    f.nextHolder pending [] discarded s holders

/-- A probe answered. -/
def judge (f : Speculative) (pending : Nat) (ready : List Ready) (held : Ready)
    (holders : List String) (discarded : List Core) (isAlive : Bool) (s : Scene) :
    Speculative × Scene :=
  if isAlive then f.nextHolder pending (ready ++ [held]) discarded s holders
  else
    let s := s.report .debug "Held core is not alive, disposing" [providerField held.1]
    let s := f.trace s (("dead core from " ++ held.1 : String))
    f.nextHolder pending ready (discarded ++ [held.2]) s holders

/-! ## Matching -/

/-- What comes of assigning cores to requests. -/
structure Matched where
  /-- How many requests are left without a core. -/
  pending : Nat
  /-- The cores that were not needed. -/
  leftovers : List Ready
  scene : Scene

/-- Assigns cores to requests in order, one to each, as long as there are both. -/
def assign (f : Speculative) (s : Scene) : List Nat → List Ready → Matched
  | [], ready => ⟨0, ready, s⟩
  | requests, [] => ⟨requests.length, [], s⟩
  | request :: requests, (id, core) :: ready =>
    let s := s.note (.offered f.board request core)
    match s.assignCore f.board request core with
    | .ok s =>
      let s := s.report .trace "request fulfilled"
        [providerField id, ("request_id", .naming request)]
      let s := f.trace s
        (Phrase.ofText "fulfilled request " ++ Phrase.naming request
          ++ Phrase.ofText (" from " ++ id))
      assign f s requests ready
    | .error reason =>
      let s := (s.note (.refused f.board request core)).report .debug "core rejected"
        [("request_id", .naming request), ("reason", reason.message)]
      let m := assign f s requests ready
      { m with leftovers := (id, core) :: m.leftovers }

/-! ## Sizing -/

/-- Starts an attempt on the provider with this id, if it is idle. -/
def startAttempt (f : Speculative) (me : Nat) (s : Scene) (id : String) : Speculative × Scene :=
  match f.states.get? id with
  | none => (f, s)
  | some o =>
    let (tokenNumber, s) := s.fresh
    let token := f.shutdown.child tokenNumber
    match o.start? token with
    | none => (f, s)
    | some (number, o) =>
      let s := s.report .debug "starting obtainment"
        [providerField id, ("attempt", .ofText (toString number))]
      let s := f.trace s (("obtaining from " ++ id : String))
      let (serial, s) := s.fresh
      let (call, s) := s.newCall o.provider.serial token
      let a : Attempt := { serial, number, provider := o.provider, token, point := .calling call }
      ({ f with states := f.states.modify id fun _ => o
                attempts := f.attempts ++ [a]
                owners := f.owners ++ [⟨serial, o.provider, number⟩] },
        s.spawn (.attempt me serial))

/-- Starts attempts on providers, one after the other. -/
def startAttempts (f : Speculative) (me : Nat) (s : Scene) : List String → Speculative × Scene
  | [] => (f, s)
  | id :: rest =>
    let (f, s) := f.startAttempt me s id
    startAttempts f me s rest

/-- Gives up the obtainment from the provider with this id; a held core is added to `discarded`. -/
def giveUp (f : Speculative) (s : Scene) (discarded : List Core) (id : String) :
    Speculative × Scene × List Core :=
  match f.states.get? id with
  | none => (f, s, discarded)
  | some o =>
    let s := s.report .debug "cancelling surplus obtainment" [providerField id]
    let s := f.trace s (("cancelled obtainment on " ++ id : String))
    let s := (o.inFlight?.toList).foldl Scene.fire s
    ({ f with states := f.states.modify id (·.release) }, s, discarded ++ o.heldCore?.toList)

/-- Gives up obtainments, one after the other. -/
def giveUpAll (f : Speculative) (s : Scene) (discarded : List Core) :
    List String → Speculative × Scene × List Core
  | [] => (f, s, discarded)
  | id :: rest =>
    let (f, s, discarded) := f.giveUp s discarded id
    giveUpAll f s discarded rest

/-- Starts attempts on idle providers, or gives up engaged ones, until as many are engaged as should
be or none is left to start.  Chance decides which. -/
def rebalance (f : Speculative) (me : Nat) (s : Scene) (pending : Nat) (discarded : List Core) :
    Speculative × Scene × List Core :=
  let target := States.target pending f.settings.slack.toNat
  let engaged := f.states.engaged
  let idle := f.states.idle
  let s := s.report .trace "obtainment sizing"
    [("remaining", .ofText (toString pending)), ("target", .ofText (toString target)),
     ("engaged", .ofText (toString engaged.length)), ("idle", .ofText (toString idle.length))]
  if engaged.length < target then
    let chosen := (chance.order s.draws idle).take (target - engaged.length)
    let (f, s) := f.startAttempts me { s with draws := s.draws + 1 } chosen
    (f, s, discarded)
  else if target < engaged.length then
    let chosen := (chance.order s.draws engaged).take (engaged.length - target)
    f.giveUpAll { s with draws := s.draws + 1 } discarded chosen
  else (f, s, discarded)

/-- Disposes of the first of some cores and waits for it, with the others to follow; after the last
one goes to the point `next`. -/
def disposeInTurn (f : Speculative) (s : Scene) (wait : List Core → SpeculativePoint)
    (next : SpeculativePoint) : List Core → Speculative × Scene
  | [] => (f.goTo next, s)
  | core :: others => (f.goTo (wait others), s.disposeCore core)

/-- Under the guard of the registry: assigns cores, puts back those that were not needed, and goes on
to dispose of those that were gathered. -/
def finishPass (f : Speculative) (me : Nat) (ready : List Ready) (discarded : List Core)
    (board : Board) (s : Scene) : Speculative × Scene :=
  let requests := (board.registry.candidates f.constraint).map (·.id)
  let matched := f.assign s requests ready
  let s := matched.scene.leave f.board
  let (states, refused) := f.states.restoreCores matched.leftovers
  let (f, s, discarded) :=
    { f with states }.rebalance chance me s matched.pending (discarded ++ refused)
  f.leave.disposeInTurn s .discarding .idle discarded

end CoreBroker.Speculative
