import CoreBroker.World.Errands
set_option autoImplicit false

/-!
# Steps of tasks

`step` lets one task take one step and is absent where the task has to wait; which task is next is not
decided here, so a law about all runs is a law about every order in which tasks can be let run.
-/

namespace CoreBroker.World

variable (chance : Chance)

/-- One step of a task, unless it has to wait or is over. -/
def step (w : World) : Task → Option World
  | .dedicated i =>
    match w.dedicated[i]? with
    | none => none
    | some f => (f.step i w.scene).map fun (f, scene) =>
        { w with scene, dedicated := w.dedicated.set i f }
  | .speculative i =>
    match w.speculative[i]? with
    | none => none
    | some f => (f.step chance i w.scene).map fun (f, scene) =>
        { w with scene, speculative := w.speculative.set i f }
  | .attempt i serial =>
    match w.speculative[i]? with
    | none => none
    | some f =>
      match f.attempts.find? (·.serial == serial) with
      | none => none
      | some a => (f.stepAttempt i a w.scene).map fun (f, scene) =>
          { w with scene, speculative := w.speculative.set i f }
  | .errand serial =>
    match w.errands.find? (·.1 == serial) with
    | none => none
    | some (_, e) => (w.stepErrand serial e).map (conclude serial e)

/-- Whether a task is not over. -/
def isLive (w : World) : Task → Bool
  | .dedicated i => (w.dedicated[i]?).any fun f => !f.isOver
  | .speculative i => (w.speculative[i]?).any fun f => !f.isOver
  | .attempt i serial => (w.speculative[i]?).any fun f => f.attempts.any (·.serial == serial)
  | .errand serial => w.errands.any (·.1 == serial)

/-- When a task wakes up by itself. -/
def deadline (w : World) : Task → Option Nat
  | .dedicated i => (w.dedicated[i]?).bind (·.deadline)
  | .speculative i => (w.speculative[i]?).bind (·.deadline)
  | .attempt i serial =>
    ((w.speculative[i]?).bind fun f => f.attempts.find? (·.serial == serial)).bind
      Speculative.attemptDeadline
  | .errand serial => (w.errands.find? (·.1 == serial)).bind (·.2.deadline)

end CoreBroker.World
