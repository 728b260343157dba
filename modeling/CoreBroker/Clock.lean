set_option autoImplicit false

/-!
# Clocks

Time moves only when it is told to.  The steady clock, by which ages and timers go, starts at zero;
the wall clock may be set to any time, also before its epoch.  Both count milliseconds.
-/

namespace CoreBroker

/-- The two clocks. -/
structure Clock where
  steady : Nat := 0
  wall : Int := 1700000000000
  deriving DecidableEq, Repr, Inhabited

namespace Clock

/-- The wall clock as it is written down: zero for times before the epoch. -/
def stamp (c : Clock) : Nat := c.wall.toNat

/-- Both clocks move on. -/
def advance (c : Clock) (ms : Nat) : Clock := ⟨c.steady + ms, c.wall + ms⟩

/-- Sets the wall clock. -/
def setWall (c : Clock) (wall : Int) : Clock := { c with wall }

end Clock

end CoreBroker
