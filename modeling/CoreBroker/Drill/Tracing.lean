import CoreBroker.Clock
import CoreBroker.Log
import CoreBroker.Trace
set_option autoImplicit false

/-!
# Drill: tracing

A scripted exercise of one trace memory and of trace lines that are sent into the log.
-/

namespace CoreBroker.Drill.Tracing

/-- A step of the drill. -/
inductive Step where
  | add (source message : String)
  /-- Add the numbers from zero up to but not including `n`. -/
  | addMany (source : String) (n : Nat)
  | log (source message : String)
  | advance (ms : Nat)
  | wall (ms : Int)
  | entries
  | ends
  | dump
  | length
  | unreadable
  deriving Repr

/-- What a step gives; no request is mentioned. -/
inductive Answer where
  | number (n : Nat)
  | nothing
  | lines (ls : List String)
  | entries (es : List (Trace.Entry Empty))
  | ends (first last : Option String)
  | length (n : Nat) (isEmpty : Bool)
  | badStep

/-- The memory, the clock, and the most verbose level listened to. -/
structure State where
  memory : Trace.Memory Empty
  clock : Clock
  level : Option Log.Level

/-- The log line of a trace line. -/
def logLine {ι : Type} (source : String) (message : Phrase ι) : Log.Line ι :=
  { level := .trace, message, fields := [("source", Phrase.ofText source)] }

/-- A phrase that mentions no request has one text. -/
def textOf (p : Phrase Empty) : String := p.render nofun

namespace State

/-- Keeps a line. -/
def add (s : State) (source message : String) : State :=
  { s with memory := s.memory.add s.clock.steady s.clock.stamp source (.ofText message) }

/-- Keeps the numbers `i`, `i + 1` and so on, `n` of them. -/
def addFrom (s : State) (source : String) (i : Nat) : Nat → State
  | 0 => s
  | n + 1 => (s.add source (toString i)).addFrom source (i + 1) n

/-- Performs a step. -/
def step (s : State) : Step → Answer × State
  | .add source message =>
    let s := s.add source message
    (.number s.memory.size, s)
  | .addMany source n =>
    let s := s.addFrom source 0 n
    (.number s.memory.size, s)
  | .log source message =>
    let line := logLine source (.ofText message)
    (.lines (if Log.isHeard s.level line.level then [Log.keptText (textOf line.phrase)] else []),
      s)
  | .advance ms => (.nothing, { s with clock := s.clock.advance ms })
  | .wall ms => (.nothing, { s with clock := s.clock.setWall ms })
  | .entries => (.entries s.memory.toList, s)
  | .ends =>
    let texts := s.memory.toList.map fun e => textOf e.message
    (.ends texts.head? texts.getLast?, s)
  | .dump => (.lines (s.memory.toList.map fun e => textOf e.phrase), s)
  | .length => (.length s.memory.size (s.memory.size == 0), s)
  | .unreadable => (.badStep, s)

end State

/-- Performs steps one after the other. -/
def runFrom (s : State) : List Step → List Answer
  | [] => []
  | step :: rest =>
    let (answer, s) := s.step step
    answer :: runFrom s rest

/-- Performs a drill on a new memory. -/
def run (limit : Option Nat) (level : Option Log.Level) (steps : List Step) : List Answer :=
  runFrom ⟨.new 0 (limit.getD Trace.defaultLimit), {}, level⟩ steps

end CoreBroker.Drill.Tracing
