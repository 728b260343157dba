import CoreBroker.Scenario.Begun
import CoreBroker.World.Setup
set_option autoImplicit false

/-!
# Steps about services

Setting fulfillers and brokers up, looking at them, and shutting them down or giving them up.
-/

namespace CoreBroker.Scenario

namespace State

/-- A new service gets a name; an older service of that name is given up. -/
def nameService (s : State) (name : String) (index : Nat) (w : World) : State :=
  let old := s.services.lookup name
  let s := { s.withWorld w with services := rename s.services name index }
  match old with
  | some old => s.giveUp (.service old)
  | none => s

/-- Sends the trace lines of a part to a sink. -/
def attach (s : State) (part : Part) (sink : Trace.Sink) : Begun × State :=
  match part with
  | .registry => (s.withWorld (s.world.attachBoard sink s.board)).finish .nothing
  | .roster => (s.withWorld (s.world.attachRoster sink s.roster)).finish .nothing
  | .service name =>
    match s.service? name with
    | none => s.refuse
    | some (_, service) => (s.withWorld (s.world.attachService sink service)).finish .nothing

/-- Sets up a dedicated fulfiller. -/
def dedicated (s : State) (name handle : String) (settings : Option DedicatedSettings) :
    Begun × State :=
  match s.provider? handle, settings with
  | none, _ => s.refuse
  | _, none => s.finish .badSettings
  | some (_, provider), some settings =>
    match s.world.newDedicated s.board s.roster provider.ref settings with
    | .error reason => s.finish (.fault reason)
    | .ok (i, w) => (s.nameService name i w).finish (.dedicated provider.ref.id)

/-- Sets up a speculative fulfiller. -/
def speculative (s : State) (name : String) (settings : Option SpeculativeSettings) :
    Begun × State :=
  match settings with
  | none => s.finish .badSettings
  | some settings =>
    match s.world.newSpeculative s.board s.roster settings with
    | .error reason => s.finish (.fault reason)
    | .ok (i, w) => (s.nameService name i w).finish .speculative

/-- Brings a registry and a roster into the scenario, for a broker that does not share those there
are. -/
def withFreshParts (s : State) : State :=
  let scene := { s.scene with boards := s.scene.boards ++ [{}], rosters := s.scene.rosters ++ [{}] }
  { s.withScene scene with board := s.scene.boards.length, roster := s.scene.rosters.length }

/-- Sets up a broker; one with parts of its own makes them the current ones. -/
def broker (s : State) (name : String) (settings : Option BrokerSettings)
    (handle : Option String) (isFresh isTraced : Bool) : Begun × State :=
  match settings, handle.map s.provider? with
  | _, some none => s.refuse
  | none, _ => s.finish .badSettings
  | some settings, provider =>
    let parts := if isFresh then s.withFreshParts else s
    let provider := provider.join.map (·.2.ref)
    match parts.world.newBroker parts.board parts.roster provider settings with
    | .error reason => s.finish (.fault reason)
    | .ok (service, w) =>
      let w := if isTraced then w.attachService .memory service else w
      let (i, w) := w.addService service
      (parts.nameService name i w).finish
        (.broker service.dedicated.isSome service.speculative.isSome)

/-- Looks at the obtainments of a service. -/
def states (s : State) (name : String) : Begun × State :=
  match s.service? name with
  | none => s.refuse
  | some (i, service) =>
    match service.speculative with
    | some f => s.send (.sight f i)
    | none => if service.isBroker then s.finish (.sightings []) else s.refuse

/-- The counts that a broker gives. -/
def brokerCounts (s : State) (name : String) : Begun × State :=
  match s.broker? name with
  | none => s.refuse
  | some (i, service) => s.send (.ask service.board .counts (some i))

/-- Shuts a service down. -/
def shutDown (s : State) (name : String) : Begun × State :=
  match s.service? name with
  | none => s.refuse
  | some (i, service) =>
    if s.world.isUsed (.service i) then s.finish .busy
    else
      { s with services := forget s.services name }.send (.shutDown service.isBroker false
        (service.dedicated.toList.map (Stopping.dedicated · false)
          ++ service.speculative.toList.map (Stopping.speculative · false)))

/-- Gives a service up without shutting it down. -/
def dropService (s : State) (name : String) : Begun × State :=
  match s.services.lookup name with
  | none => s.refuse
  | some i => ({ s with services := forget s.services name }.giveUp (.service i)).finish (.truth true)

end State

end CoreBroker.Scenario
