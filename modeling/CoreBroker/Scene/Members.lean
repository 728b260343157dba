import CoreBroker.Scene.Basic
set_option autoImplicit false

/-!
# Operations on a roster

Providers joining and leaving a roster, with the trace and log lines that go with it.  Whoever is
turned away leaves no trace.
-/

namespace CoreBroker.Scene

/-- The source named in the trace lines of a roster. -/
def rosterSource : String := "providers"

/-- Says what happened to a provider of a roster. -/
def reportMember (s : Scene) (sink : Trace.Sink) (deed id : String) : Scene :=
  (s.trace sink rosterSource (.ofText (deed ++ " provider " ++ id))).report .debug
    (.ofText ("core provider " ++ deed)) [("provider_id", .ofText id)]

/-- Replaces a roster. -/
def setRoster (s : Scene) (r : Nat) (roster : Roster) : Scene :=
  s.modifyRoster r fun _ => roster

/-- A provider joins a roster, unless its id is taken. -/
def addMember (s : Scene) (r : Nat) (p : ProviderRef) : Bool × Scene :=
  match s.rosters[r]? with
  | none => (false, s)
  | some roster =>
    match roster.add? p with
    | some roster => (true, (s.setRoster r roster).reportMember roster.sink "added" p.id)
    | none => (false, s)

/-- The provider with this id leaves a roster, if there is one. -/
def removeMember (s : Scene) (r : Nat) (id : String) : Bool × Scene :=
  match s.rosters[r]? with
  | none => (false, s)
  | some roster =>
    match roster.remove? id with
    | some roster => (true, (s.setRoster r roster).reportMember roster.sink "removed" id)
    | none => (false, s)

end CoreBroker.Scene
