import CoreBroker.Scenario.Begun
import CoreBroker.Scene.Members
set_option autoImplicit false

/-!
# Steps about providers

Setting providers up, asking them for cores, and letting them join and leave a roster.
-/

namespace CoreBroker.Scenario

namespace State

/-- Sets up a provider; `make` is told under which serial. -/
def setProvider (s : State) (handle : String) (make : Nat → Provider) : State :=
  let p := s.scene.providers.length
  let scene := { s.scene with providers := s.scene.providers ++ [make p] }
  { s.withScene scene with providers := rename s.providers handle p }

/-- Sets up a provider with a script. -/
def scriptedProvider (s : State) (handle id : String) (plans : List Plan) : Begun × State :=
  (s.setProvider handle fun p =>
    { ref := ⟨p, id⟩, handle, stock := .scripted plans { free := 0 } }).finish .nothing

/-- Sets up a provider of slots; with too many slots the scenario breaks down. -/
def slotProvider (s : State) (handle id : String) (slots : Nat) : Begun × State :=
  if slots ≤ Provider.maxSlots then
    (s.setProvider handle fun p => Provider.withSlots ⟨p, id⟩ handle slots).finish (.providerId id)
  else { s with isBroken := true }.finish .panicked

/-- The number of slots of the provider that stands for this machine; nothing that is shown
depends on it. -/
def machineSlots : Nat := 8

/-- Permits to release cores for a provider with a script. -/
def release (s : State) (handle : String) (permits : Nat) : Begun × State :=
  match s.provider? handle with
  | some (p, { stock := .scripted _ releases, .. }) =>
    (s.withScene (s.scene.setPermits p (releases.giveBackMany permits))).finish .nothing
  | _ => s.refuse

/-- Describes a provider of slots, after it has been changed by `change`. -/
def slots (s : State) (handle : String) (withoutTotal : Bool) (change : Provider → Provider) :
    Begun × State :=
  match s.provider? handle with
  | some (p, provider@{ stock := .slots _ _, .. }) =>
    let provider := change provider
    (s.withScene (s.scene.modifyProvider p fun _ => provider)).finish
      (.slots provider.issued provider.isClosed provider.totalSlots provider.freeSlots withoutTotal)
  | _ => s.refuse

/-- Asks a provider for a core. -/
def requestCore (s : State) (handle : String) (token : Option String) : Begun × State :=
  match s.provider? handle with
  | none => s.refuse
  | some (p, _) =>
    let (t, s) := s.token token
    let (call, scene) := s.scene.newCall p t
    (s.withScene scene).send (.call call)

/-- The roster that is meant: that of a broker, or the current one. -/
def rosterOf? (s : State) : Option String → Option Nat
  | none => some s.roster
  | some name => (s.broker? name).map (·.2.roster)

/-- A provider joins a roster. -/
def add (s : State) (handle : String) (broker : Option String) : Begun × State :=
  match s.provider? handle, s.rosterOf? broker with
  | some (_, provider), some r =>
    let (isNew, scene) := s.scene.addMember r provider.ref
    (s.withScene scene).finish (.truth isNew)
  | _, _ => s.refuse

/-- A provider leaves a roster. -/
def remove (s : State) (id : String) (broker : Option String) : Begun × State :=
  match s.rosterOf? broker with
  | some r =>
    let (wasThere, scene) := s.scene.removeMember r id
    (s.withScene scene).finish (.truth wasThere)
  | none => s.refuse

end State

end CoreBroker.Scenario
