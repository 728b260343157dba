import CoreBroker.Scenario.Providers
import CoreBroker.Scenario.Receivers
import CoreBroker.Scenario.Requests
import CoreBroker.Scenario.Services
set_option autoImplicit false

/-!
# Performing steps

Every step is performed by the function named after it.
-/

namespace CoreBroker.Scenario

namespace State

mutual
/-- Performs a step. -/
def perform (s : State) : Step → Begun × State
  | .batch steps =>
    let (xs, s) := s.performAll steps
    (.batch xs, s)
  | .idle => s.finish .nothing
  | .advance ms => s.advance ms
  | .fire token => s.fire token
  | .openGate gate permits => s.openGate gate permits
  | .hand => s.finish (.hand (sorted (s.world.hand.map (·.name))))
  | .disposeCore name => s.disposeCore name
  | .dropCore name => s.dropCore name
  | .kill name => s.kill name
  | .probe core token => s.probe core token
  | .attach part sink => s.attach part sink
  | .trace isSorted => s.trace isSorted
  | .logs isSorted => s.logs isSorted
  | .create preference => s.send (.create s.board preference 1 [] none false)
  | .createMany preference count => s.createMany preference count
  | .reserve preference token broker => s.reserve preference token broker
  | .wait request token takes => s.wait request token takes
  | .take request => s.take request
  | .info request => s.info request
  | .dispose request => s.dispose request
  | .disposeAll => s.disposeAll
  | .drop request => s.drop request
  | .dropOutside request => s.dropOutside request
  | .ask query => s.send (.ask s.board query none)
  | .lockInfo lock => s.lockInfo lock
  | .lockAssign lock core => s.lockAssign lock core
  | .lockDrop lock => s.lockDrop lock
  | .snapshotAssign snapshot index core origin => s.snapshotAssign snapshot index core origin
  | .snapshotDrop snapshot => s.snapshotDrop snapshot
  | .subscribe name => s.subscribe name
  | .receive name onlyLast => s.receive name onlyLast
  | .drain name => s.drain name
  | .unsubscribe name => s.unsubscribe name
  | .provider handle id plans => s.scriptedProvider handle id plans
  | .release handle permits => s.release handle permits
  | .slotProvider handle id slots => s.slotProvider handle id slots
  | .localProvider handle => s.slotProvider handle Provider.localId machineSlots
  | .slots handle withoutTotal => s.slots handle withoutTotal id
  | .close handle withoutTotal => s.slots handle withoutTotal (·.close)
  | .requestCore handle token => s.requestCore handle token
  | .add handle broker => s.add handle broker
  | .remove id broker => s.remove id broker
  | .has id => s.finish (.truth (s.currentRoster.has id))
  | .providers => s.finish (.providers (s.currentRoster.members.map (·.id)))
  | .subscribeRoster name => s.subscribeRoster name
  | .receiveRoster name => s.receiveRoster name
  | .unsubscribeRoster name => s.unsubscribeRoster name
  | .dedicated name handle settings => s.dedicated name handle settings
  | .speculative name settings => s.speculative name settings
  | .broker name settings handle isFresh isTraced =>
    s.broker name settings handle isFresh isTraced
  | .states name => s.states name
  | .brokerCounts name => s.brokerCounts name
  | .shutDown name => s.shutDown name
  | .dropService name => s.dropService name
  | .unreadable => s.refuse

/-- Performs steps one after the other, without letting tasks run in between. -/
def performAll (s : State) : List Step → List Begun × State
  | [] => ([], s)
  | step :: rest =>
    let (x, s) := s.perform step
    let (xs, s) := s.performAll rest
    (x :: xs, s)
end

end State

end CoreBroker.Scenario
