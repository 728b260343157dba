import CoreBroker.World.Basic
set_option autoImplicit false

/-!
# Steps of errands

An errand goes on step by step and brings back a reply when it is over.  Whatever needs the guard of a
registry waits for it in the order of asking.  The guard has been given back when an errand waits for the
disposal of a core.
-/

namespace CoreBroker.World

/-- What a step of an errand comes to. -/
inductive Progress where
  | goOn (e : Errand) (w : World)
  | finish (r : Reply) (w : World)

/-- A step that needs the guard of a registry: `act` is what the errand does once it has it. -/
def underGuard (w : World) (e : Errand) (serial board : Nat)
    (act : Board → World → Progress) : Option Progress :=
  match w.scene.enter board (.errand serial) with
  | .blocked => none
  | .joined scene => some (.goOn e (w.withScene scene))
  | .entered b scene => some (act b (w.withScene scene))

/-- Gives the guard of a registry back. -/
def leave (w : World) (board : Nat) : World := w.withScene (w.scene.leave board)

/-- How waiting for a request ends, if it does: what became of the request comes before the token. -/
def settled? (w : World) (board id : Nat) (token : Token) : Option (Except (Fault Nat) Unit) :=
  match w.scene.request? board id with
  | some { phase := .fulfilled, .. } => some (.ok ())
  | some { phase := .disposed, .. } => some (.error (.requestDisposed id))
  | _ => if w.scene.isCancelled token then some (.error .cancelled) else none

/-- Under the guard: takes a request off the list, gives the guard back and has the core disposed of
that the request still had. -/
def removeRequest (w : World) (board id : Nat) : World :=
  let (core, scene) := w.scene.disposeRequest board id
  w.withScene ((scene.leave board).disposeCores core.toList)

/-- Under the guard: removes a request.  If it still had a core the errand goes on as `waiting`, until
the core has been disposed of, else with `next`. -/
def disposeRequest (w : World) (board id : Nat) (waiting : Errand) (next : World → Progress) :
    Progress :=
  if w.scene.hasCore board id then .goOn waiting (w.removeRequest board id)
  else next (w.removeRequest board id)

/-- Enters a request under the guard. -/
def enterRequest (w : World) (board : Nat) (draft : Request Core) : World :=
  (w.withScene (w.scene.enterRequest board draft)).leave board

/-- Answers a question under the guard. -/
def answer (w : World) (board : Nat) (b : Board) : Query → Progress
  | .statistics => .finish (.statistics b.registry.statistics) (w.leave board)
  | .counts => .finish (.counts b.registry.statistics) (w.leave board)
  | .summaries => .finish (.summaries (b.registry.summaries w.scene.now)) (w.leave board)
  | .count c => .finish (.number (b.registry.candidateCount c)) (w.leave board)
  | .hasNext includeLocal remoteDelay =>
    .finish (.truth (b.registry.hasNext includeLocal remoteDelay w.scene.now)) (w.leave board)
  | .next includeLocal remoteDelay =>
    match b.registry.next? includeLocal remoteDelay w.scene.now with
    | none => .finish .nothing (w.leave board)
    | some r =>
      let scene := ((w.scene.reserveRequest board r.id).leave board).reportReserved board r.id
      let (serial, scene) := scene.fresh
      let lock : Lock := { serial, board, request := r.id }
      .finish (.reserved lock) { w with scene, locks := w.locks ++ [lock] }
  | .snapshot c =>
    let (serial, scene) := w.scene.fresh
    let snapshot : Snapshot :=
      { serial, board, requests := (b.registry.candidates c).map (·.id) }
    let scene := scene.modifyBoard board fun b =>
      { b with guard := b.guard.passTo (.snapshot serial) }
    .finish (.snapshot snapshot) { w with scene, snapshots := w.snapshots ++ [snapshot] }

/-- The client gets a core into its hands; it keeps one of a name, and lets go of an older one. -/
def receiveCore (w : World) (core : Core) : World :=
  let (older, others) := w.hand.partition (·.name == core.name)
  { w with scene := older.foldl Scene.giveBackSlot w.scene, hand := others ++ [core] }

/-- The client takes the core out of a request, if it is there. -/
def takeCore (w : World) (board id : Nat) : Option Core × World :=
  match w.scene.takeCore board id with
  | (some core, scene) => (some core, (w.withScene scene).receiveCore core)
  | (none, _) => (none, w)

/-- Says that a shutdown returned. -/
def noteStopped (w : World) (loop : Task) : World := w.withScene (w.scene.note (.stopped loop))

/-- One step of the shutdown of a fulfiller at the head of `parts`. -/
def stepStopping (w : World) (isBroker : Bool) : List Stopping → Option Progress
  | [] =>
    let scene := if isBroker then w.scene.report .info "Worker pool shut down complete" []
      else w.scene
    some (.finish .down (w.withScene scene))
  | .dedicated i false :: rest =>
    some (.goOn (.shutDown isBroker true (.dedicated i true :: rest)) (w.stopDedicated i))
  | .speculative i false :: rest =>
    some (.goOn (.shutDown isBroker true (.speculative i true :: rest)) (w.stopSpeculative i))
  | .dedicated i true :: rest =>
    match w.dedicated[i]? with
    | none => some (.goOn (.shutDown isBroker true rest) w)
    | some f =>
      if f.isOver then
        let scene :=
          if f.point == .panicked then
            w.scene.report .warn "single-source control loop panicked" [f.providerField]
          else w.scene
        let scene := scene.report .info "Single-source fulfiller shut down" [f.providerField]
        some (.goOn (.shutDown isBroker true rest)
          ((w.withScene scene).noteStopped (.dedicated i)))
      else none
  | .speculative i true :: rest =>
    match w.speculative[i]? with
    | none => some (.goOn (.shutDown isBroker true rest) w)
    | some f =>
      if f.isOver then
        let scene := w.scene.report .info "Multi-source fulfiller shut down" []
        some (.goOn (.shutDown isBroker true rest)
          ((w.withScene scene).noteStopped (.speculative i)))
      else none

/-- One step of an errand, unless it has to wait. -/
def stepErrand (w : World) (serial : Nat) (e : Errand) : Option Progress :=
  match e with
  | .create board preference left made none isMany =>
    let (draft, scene) := w.scene.draft preference
    some (.goOn (.create board preference left made (some draft) isMany) (w.withScene scene))
  | .create board preference left made (some draft) isMany =>
    w.underGuard e serial board fun _ w =>
      let w := w.enterRequest board draft
      let made := made ++ [draft.id]
      if 1 < left then .goOn (.create board preference (left - 1) made none isMany) w
      else if isMany then .finish (.createdMany board made) w
      else .finish (.created board draft.id) w
  | .reserve board preference token service stage =>
    match stage with
    | .drafting =>
      let (draft, scene) := w.scene.draft preference
      some (.goOn (.reserve board preference token service (.entering draft)) (w.withScene scene))
    | .entering draft =>
      w.underGuard e serial board fun _ w =>
        .goOn (.reserve board preference token service (.waiting draft.id))
          (w.enterRequest board draft)
    | .waiting id =>
      match w.settled? board id token with
      | none => none
      | some (.ok ()) => some (.finish (.created board id) w)
      | some (.error reason) =>
        let scene := w.scene.report .debug "core request abandoned"
          [("request_id", .naming id), ("error", reason.message)]
        some (.goOn (.reserve board preference token service (.abandoning id reason))
          (w.withScene scene))
    | .abandoning id reason =>
      w.underGuard e serial board fun _ w =>
        w.disposeRequest board id
          (.reserve board preference token service (.disposing id reason)) (.finish (.fault reason))
    | .disposing _ reason => some (.finish (.fault reason) w)
  | .wait board id token takes =>
    match w.settled? board id token with
    | none => none
    | some (.error reason) => some (.finish (.fault reason) w)
    | some (.ok ()) =>
      if takes then
        match w.takeCore board id with
        | (some core, w) => some (.finish (.core core) w)
        | (none, w) => some (.finish (.fault (.noCoreAssigned id)) w)
      else some (.finish .fulfilled w)
  | .dispose board id =>
    w.underGuard e serial board fun _ w =>
      w.disposeRequest board id (.disposing board id .reply) (.finish .done)
  | .disposeAll [] count => some (.finish (.number count) w)
  | .disposeAll ((board, id) :: rest) count =>
    w.underGuard e serial board fun _ w =>
      w.disposeRequest board id (.disposing board id (.others rest (count + 1)))
        (.goOn (.disposeAll rest (count + 1)))
  | .cleanUp board id =>
    w.underGuard e serial board fun _ w =>
      w.disposeRequest board id (.disposing board id .nothing) (.finish .done)
  | .disposing _ _ .reply | .disposing _ _ .nothing => some (.finish .done w)
  | .disposing _ _ (.others requests count) => some (.goOn (.disposeAll requests count) w)
  | .ask board query _ => w.underGuard e serial board fun b w => w.answer board b query
  | .assign lock core =>
    w.underGuard e serial lock.board fun _ w =>
      match w.scene.assignCore lock.board lock.request core with
      | .ok scene => .finish .accepted ((w.withScene scene).leave lock.board)
      | .error reason =>
        let scene := w.scene.note (.refused lock.board lock.request core)
        .finish (.refused ⟨core, reason⟩) (((w.withScene scene).leave lock.board).receiveCore core)
  | .probe core ticket token =>
    match w.scene.lookAtProbe core ticket token with
    | .blocked => none
    | .moved scene => some (.goOn e (w.withScene scene))
    | .answered isAlive scene =>
      some (.finish (.truth isAlive) ((w.withScene scene).receiveCore core))
  | .call call =>
    match w.scene.lookAtCall call with
    | .blocked => none
    | .moved call scene => some (.goOn (.call call) (w.withScene scene))
    | .ended (.core core) scene => some (.finish (.core core) ((w.withScene scene).receiveCore core))
    | .ended (.failed chain) scene => some (.finish (.failed chain) (w.withScene scene))
    | .ended .panicked scene => some (.finish .panicked (w.withScene scene))
  | .sight i _ =>
    match w.speculative[i]? with
    | none => some (.finish (.sightings []) w)
    | some f =>
      match f.enter (.errand serial) with
      | .blocked => none
      | .joined f => some (.goOn e { w with speculative := w.speculative.set i f })
      | .entered f =>
        some (.finish (.sightings f.states.sightings)
          { w with speculative := w.speculative.set i f.leave })
  | .shutDown true false parts =>
    some (.goOn (.shutDown true true parts)
      (w.withScene (w.scene.report .info "Shutting down worker pool" [])))
  | .shutDown isBroker _ parts => w.stepStopping isBroker parts

/-- Gives up what only the errand just over was using. -/
def settleStake (w : World) (e : Errand) : World :=
  match e.stake? with
  | none => w
  | some stake =>
    if w.leaving.contains stake && !w.isUsed stake then
      { w with leaving := w.leaving.filter (· != stake) }.relinquish stake
    else w

/-- Whether the client waits for the reply of an errand. -/
def isWaitedFor : Errand → Bool
  | .cleanUp _ _ | .disposing _ _ .nothing => false
  | _ => true

/-- Takes over what a step of an errand comes to. -/
def conclude (serial : Nat) (e : Errand) : Progress → World
  | .goOn e w => { w with errands := w.errands.map fun (n, old) =>
      if n == serial then (n, e) else (n, old) }
  | .finish r w =>
    let w := { w with errands := w.errands.filter (·.1 != serial) }
    let w := if isWaitedFor e then { w with replies := w.replies ++ [(serial, r)] } else w
    w.settleStake e

end CoreBroker.World
