import CoreBroker.Text.Phrase
import CoreBroker.Window
set_option autoImplicit false

/-!
# Traces

Short labelled lines that say what the parts of a broker are doing, apart from its log.  A part
sends its lines nowhere, into the log, or into a memory that keeps the newest ones.
-/

namespace CoreBroker.Trace

/-- How many lines a memory keeps unless asked otherwise. -/
def defaultLimit : Nat := 10000

/-- Where a part sends its trace lines. -/
inductive Sink where
  | nowhere
  | log
  | memory
  deriving DecidableEq, Repr, Inhabited

/-- A line kept by a memory. -/
structure Entry (ι : Type) where
  /-- Milliseconds since the memory was set up. -/
  elapsed : Nat
  /-- The wall clock in milliseconds. -/
  wall : Nat
  source : String
  message : Phrase ι
  deriving DecidableEq, Repr

/-- The line as a phrase. -/
def Entry.phrase {ι : Type} (e : Entry ι) : Phrase ι :=
  Phrase.ofText ("[+" ++ toString e.elapsed ++ "ms] " ++ e.source ++ ": ") ++ e.message

/-- A memory set up at some time. -/
structure Memory (ι : Type) where
  started : Nat
  entries : Window (Entry ι)
  deriving Repr

namespace Memory

variable {ι : Type}

/-- A memory of at least one line. -/
def new (started limit : Nat) : Memory ι := ⟨started, .empty (max limit 1)⟩

/-- Keeps a line that arrives at the time `now`. -/
def add (m : Memory ι) (now wall : Nat) (source : String) (message : Phrase ι) : Memory ι :=
  { m with entries := m.entries.push ⟨now - m.started, wall, source, message⟩ }

/-- The lines kept, oldest first. -/
def toList (m : Memory ι) : List (Entry ι) := m.entries.toList

/-- How many lines are kept. -/
def size (m : Memory ι) : Nat := m.entries.size

end Memory

end CoreBroker.Trace
