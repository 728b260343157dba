set_option autoImplicit false

/-!
# Spans of time

A span is a number of whole seconds and a remainder in nanoseconds.  Clocks and timers of the
broker work in whole milliseconds; spans appear where ages and delays are written out.
-/

namespace CoreBroker

/-- A length of time; `nanos` stays below one second. -/
structure Span where
  secs : Nat
  nanos : Nat
  nanos_lt : nanos < 1000000000 := by omega
  deriving DecidableEq, Repr

namespace Span

instance : Inhabited Span := ⟨{ secs := 0, nanos := 0 }⟩

/-- The span of `n` milliseconds. -/
def ofMillis (n : Nat) : Span :=
  { secs := n / 1000, nanos := n % 1000 * 1000000 }

/-- Seconds and any number of nanoseconds, the excess carried into the seconds. -/
def ofParts (secs nanos : Nat) : Span :=
  { secs := secs + nanos / 1000000000, nanos := nanos % 1000000000,
    nanos_lt := Nat.mod_lt _ (by omega) }

/-- Whole milliseconds, rounded down. -/
def millis (s : Span) : Nat := s.secs * 1000 + s.nanos / 1000000

theorem ofParts_self (s : Span) : ofParts s.secs s.nanos = s := by
  obtain ⟨secs, nanos, h⟩ := s
  simp only [ofParts, Nat.div_eq_of_lt h, Nat.mod_eq_of_lt h, Nat.add_zero]

end Span

end CoreBroker
