import CoreBroker.World.Step
set_option autoImplicit false

/-!
# The scheduler

One way to choose which task is next: first come, first served.  A task goes on until it has to wait.
Tasks that can go on again line up in the order in which they stopped, and new tasks line up behind
them.  When time has moved on, those whose time has come line up in the order of their deadlines.
-/

namespace CoreBroker

/-- The world with the tasks that can go on, in the order of their turns, and those that wait, in the
order in which they stopped. -/
structure Scheduler where
  world : World := {}
  ready : List Task := []
  parked : List Task := []

namespace Scheduler

instance : Inhabited Scheduler := ⟨{}⟩

variable (chance : Chance)

/-- How many steps a task takes before others get their turn, even if it need not wait. -/
def turnLength : Nat := 20000

/-- How many steps are taken at most before the scheduler gives up waiting for quiet. -/
def patience : Nat := 100000

/-- Whether a task could take a step now. -/
def canStep (c : Scheduler) (t : Task) : Bool := (c.world.step chance t).isSome

/-- Lines up the waiting tasks that can go on. -/
def awaken (c : Scheduler) : Scheduler :=
  let (awake, parked) := c.parked.partition (c.canStep chance)
  { c with ready := c.ready ++ awake, parked }

/-- Lines up the tasks that have just begun. -/
def absorb (c : Scheduler) : Scheduler :=
  { c with ready := c.ready ++ c.world.scene.spawned
           world := c.world.withScene { c.world.scene with spawned := [] } }

/-- Puts a changed world in place and lines up whatever the change set going. -/
def resume (c : Scheduler) (w : World) : Scheduler := ({ c with world := w }.awaken chance).absorb

/-- The clocks move on, and the tasks whose time has come line up in the order of their deadlines. -/
def advance (c : Scheduler) (ms : Nat) : Scheduler :=
  let scene := { c.world.scene with clock := c.world.scene.clock.advance ms }
  let c := { c with world := c.world.withScene scene }
  let (awake, parked) := c.parked.partition (c.canStep chance)
  let awake := awake.mergeSort fun a b =>
    (c.world.deadline a).getD 0 ≤ (c.world.deadline b).getD 0
  { c with ready := c.ready ++ awake, parked }

/-- Lets tasks take steps until none can go on: `t` is the task whose turn it is, and `left` how many
steps are left of its turn. -/
def run (c : Scheduler) : Nat → Option (Task × Nat) → Scheduler
  | 0, none => c
  | 0, some (t, _) => { c with ready := t :: c.ready }
  | fuel + 1, none =>
    match c.ready with
    | [] => c
    | t :: ready => run { c with ready } fuel (some (t, turnLength))
  | fuel + 1, some (t, 0) => run { c with ready := c.ready ++ [t] } fuel none
  | fuel + 1, some (t, left + 1) =>
    match c.world.step chance t with
    | some w => run (c.resume chance w) fuel (some (t, left))
    | none =>
      if c.world.isLive t then run { c with parked := c.parked ++ [t] } fuel none
      else run c fuel none

/-- Lets tasks take steps until none can go on. -/
def settle (c : Scheduler) : Scheduler := c.run chance patience none

end Scheduler

end CoreBroker
