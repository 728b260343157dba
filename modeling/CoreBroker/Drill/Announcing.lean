import CoreBroker.Channel
import CoreBroker.Json.Basic
set_option autoImplicit false

/-!
# Drill: announcing

A scripted exercise of one change channel whose receivers have names.
-/

namespace CoreBroker.Drill.Announcing

/-- A step of the drill. -/
inductive Step where
  /-- Subscribe under a name; a receiver that had the name is given up. -/
  | subscribe (name : String)
  | announce (value : Json)
  /-- Announce the numbers from zero up to but not including `n`. -/
  | announceMany (n : Nat)
  | count
  | drop (name : String)
  | close
  | poll (name : String)
  | drain (name : String)
  /-- A new receiver that sees only later values. -/
  | resubscribe (name newName : String)
  | unreadable
  deriving Repr

/-- What a step gives. -/
inductive Answer where
  | number (n : Nat)
  | truth (b : Bool)
  | received (r : Received Json)
  | stillOpen (b : Bool)
  | badStep
  deriving Repr

/-- The channel and the names of its receivers. -/
structure State where
  channel : Channel Json
  names : List (String × Nat)

namespace State

/-- Gives a name to a receiver; the receiver that had it is given up. -/
def bind (s : State) (name : String) (receiver : Nat) : State :=
  { channel :=
      match s.names.lookup name with
      | some old => s.channel.unsubscribe old
      | none => s.channel
    names := (name, receiver) :: s.names.filter (·.1 != name) }

/-- A new receiver under a name. -/
def subscribe (s : State) (name : String) : State :=
  let (receiver, channel) := s.channel.subscribe
  { s with channel }.bind name receiver

/-- Announces the numbers `i`, `i + 1` and so on, `n` of them, and adds up their receivers. -/
def announceFrom (c : Channel Json) (i : Nat) : Nat → Nat × Channel Json
  | 0 => (0, c)
  | n + 1 =>
    let (reached, c) := c.announce (.count i)
    let (total, c) := announceFrom c (i + 1) n
    (reached + total, c)

/-- Performs a step on a channel that is still open. -/
def announceStep (s : State) : Step → Answer × State
  | .subscribe name =>
    let s := s.subscribe name
    (.number s.channel.receiverCount, s)
  | .announce value =>
    let (n, channel) := s.channel.announce value
    (.number n, { s with channel })
  | .announceMany n =>
    let (total, channel) := announceFrom s.channel 0 n
    (.number total, { s with channel })
  | .count => (.number s.channel.receiverCount, s)
  | _ => (.badStep, s)

/-- Performs a step. -/
def step (s : State) : Step → Answer × State
  | .drop name =>
    match s.names.lookup name with
    | some r => (.truth true, ⟨s.channel.unsubscribe r, s.names.filter (·.1 != name)⟩)
    | none => (.truth false, s)
  | .close => (.truth s.channel.isOpen, { s with channel := s.channel.close })
  | .poll name =>
    match s.names.lookup name with
    | some r =>
      let (received, channel) := s.channel.poll r
      (.received received, { s with channel })
    | none => (.badStep, s)
  | .drain name =>
    match s.names.lookup name with
    | some r =>
      let (isOpen, channel) := s.channel.drain r
      (.stillOpen isOpen, { s with channel })
    | none => (.badStep, s)
  | .resubscribe name newName =>
    match s.names.lookup name with
    | some _ => (.truth true, s.subscribe newName)
    | none => (.badStep, s)
  | step => if s.channel.isOpen then s.announceStep step else (.badStep, s)

end State

/-- Performs steps one after the other. -/
def runFrom (s : State) : List Step → List Answer
  | [] => []
  | step :: rest =>
    let (answer, s) := s.step step
    answer :: runFrom s rest

/-- Performs a drill on a new channel; there is none if the capacity is too great. -/
def run (capacity : Option Nat) (steps : List Step) : Option (List Answer) :=
  (Channel.new? (capacity.getD defaultChannelCapacity)).map fun channel =>
    runFrom ⟨channel, []⟩ steps

end CoreBroker.Drill.Announcing
