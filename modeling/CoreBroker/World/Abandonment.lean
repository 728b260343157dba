import CoreBroker.World.Errands
set_option autoImplicit false

/-!
# Abandoned errands

A client may lose interest in an errand wherever it stands.  The errand then takes no further step: it
leaves every queue it is in and gives back every guard and permit it was granted, and whatever it had
of its own is given up as if the client had dropped it.  A request that was entered is cleaned up by an
errand of its own, which cannot be abandoned; so nothing stays behind in a registry.  An errand that waits
for the disposal of a core no longer has that core: the core has been told already, and nobody tells it
again.
-/

namespace CoreBroker.World

/-- Begins to clean up after requests whose handles are gone. -/
def cleanUpAll (w : World) (requests : List (Nat × Nat)) : World :=
  requests.foldl (fun w (board, id) => (w.send (.cleanUp board id)).2) w

/-- A task leaves the guard of a registry. -/
def withdraw (w : World) (serial board : Nat) : World :=
  w.withScene (w.scene.withdraw board (.errand serial))

/-- A task leaves the guard of the obtainments of a speculative fulfiller. -/
def withdrawFrom (w : World) (serial i : Nat) : World :=
  { w with speculative := w.speculative.modify i fun f =>
      { f with guard := f.guard.withdraw (.errand serial) } }

/-- A part of a service whose shutdown is abandoned: one that has not been told is dropped. -/
def dropPart (w : World) : Stopping → World
  | .dedicated i false => w.dropDedicated i
  | .speculative i false => w.dropSpeculative i
  | .dedicated _ true | .speculative _ true => w

/-- What an abandoned errand leaves behind is put in order. -/
def wrapUp (w : World) (serial : Nat) : Errand → World
  | .create board _ _ made _ _ =>
    (w.withdraw serial board).cleanUpAll (made.map fun id => (board, id))
  | .reserve _ _ _ _ .drafting => w
  | .reserve board _ _ _ (.entering _) => w.withdraw serial board
  | .reserve board _ _ _ (.waiting id) => w.cleanUpAll [(board, id)]
  | .reserve board _ _ _ (.abandoning id _) => (w.withdraw serial board).cleanUpAll [(board, id)]
  | .reserve board _ _ _ (.disposing id _) => w.cleanUpAll [(board, id)]
  | .wait _ _ _ _ => w
  | .dispose board id => (w.withdraw serial board).cleanUpAll [(board, id)]
  | .disposeAll [] _ => w
  | .disposeAll ((board, id) :: rest) _ =>
    (w.withdraw serial board).cleanUpAll ((board, id) :: rest)
  | .cleanUp _ _ => w
  | .disposing board id (.others requests _) => w.cleanUpAll ((board, id) :: requests)
  | .disposing board id _ => w.cleanUpAll [(board, id)]
  | .ask board _ _ => w.withdraw serial board
  | .assign lock core =>
    let w := w.withdraw serial lock.board
    w.withScene ((w.scene.note (.lost lock.board lock.request core)).giveBackSlot core)
  | .probe core ticket _ => w.withScene (w.scene.dropProbe core ticket)
  | .call call => w.withScene (w.scene.dropCall call)
  | .sight i _ => w.withdrawFrom serial i
  | .shutDown _ _ parts => parts.foldl dropPart w

/-- The client abandons an errand, unless it is one that cleans up. -/
def abandon (w : World) (serial : Nat) : World :=
  match w.errands.find? (·.1 == serial) with
  | none => w
  | some (_, e) =>
    if isWaitedFor e then
      ({ w with errands := w.errands.filter (·.1 != serial) }.wrapUp serial e).settleStake e
    else w

end CoreBroker.World
