import CoreBroker.Obtainment
set_option autoImplicit false

/-!
# Drill: obtaining

A scripted exercise of one obtainment.  Cores are numbers, and parent tokens have names and are made
when they are first mentioned.
-/

namespace CoreBroker.Drill.Obtaining

/-- A step of the drill. -/
inductive Step where
  | start (parent : String)
  | accept (attempt : Nat) (core : Int)
  | restore (core : Int)
  | fail (attempt : Nat)
  | take
  | cancel
  | cancelParent (parent : String)
  /-- Asks about the own provider, or about another object with the given id. -/
  | belongs (other : Option String)
  | sighting
  | unreadable
  deriving Repr

/-- What a step gives. -/
inductive Result where
  | attempt (n : Option Nat)
  | accepted
  | refused (core : Int)
  | truth (b : Bool)
  | core (c : Option Int)
  | nothing
  | sighting (s : Sighting)
  | badStep
  deriving Repr

/-- The result of a step and what holds after it. -/
structure Answer where
  result : Result
  isIdle : Bool
  isObtaining : Bool
  hasCore : Bool
  isEngaged : Bool
  /-- The attempts whose tokens have fired, in the order in which they were started. -/
  cancelled : List Nat
  deriving Repr

/-- The obtainment, its tokens and what has fired. -/
structure State where
  obtainment : Obtainment Int
  parents : List (String × Token)
  attempts : List (Nat × Token)
  fired : List Nat
  nextToken : Nat

namespace State

/-- The parent token called `name`, made if there is none. -/
def parent (s : State) (name : String) : Token × State :=
  match s.parents.lookup name with
  | some t => (t, s)
  | none =>
    let t : Token := { number := s.nextToken }
    (t, { s with parents := (name, t) :: s.parents, nextToken := s.nextToken + 1 })

/-- Performs a step. -/
def step (s : State) : Step → Result × State
  | .start name =>
    let (parent, s) := s.parent name
    let token := parent.child s.nextToken
    match s.obtainment.start? token with
    | some (attempt, obtainment) =>
      (.attempt (some attempt),
        { s with obtainment, attempts := s.attempts ++ [(attempt, token)],
                 nextToken := s.nextToken + 1 })
    | none => (.attempt none, s)
  | .accept attempt core =>
    match s.obtainment.accept? attempt core with
    | some obtainment => (.accepted, { s with obtainment })
    | none => (.refused core, s)
  | .restore core =>
    match s.obtainment.restore? core with
    | some obtainment => (.accepted, { s with obtainment })
    | none => (.refused core, s)
  | .fail attempt =>
    match s.obtainment.fail? attempt with
    | some obtainment => (.truth true, { s with obtainment })
    | none => (.truth false, s)
  | .take =>
    match s.obtainment.take? with
    | some (core, obtainment) => (.core (some core), { s with obtainment })
    | none => (.core none, s)
  | .cancel =>
    (.core s.obtainment.heldCore?,
      { s with obtainment := s.obtainment.release
               fired := (s.obtainment.inFlight?.map (·.number)).toList ++ s.fired })
  | .cancelParent name =>
    let (parent, s) := s.parent name
    (.nothing, { s with fired := parent.number :: s.fired })
  | .belongs none => (.truth (s.obtainment.belongsTo s.obtainment.provider), s)
  | .belongs (some id) =>
    (.truth (s.obtainment.belongsTo ⟨s.obtainment.provider.serial + 1, id⟩), s)
  | .sighting => (.sighting s.obtainment.sighting, s)
  | .unreadable => (.badStep, s)

/-- The answer that goes with a result. -/
def answer (s : State) (result : Result) : Answer :=
  { result
    isIdle := s.obtainment.isIdle
    isObtaining := s.obtainment.isObtaining
    hasCore := s.obtainment.hasCore
    isEngaged := s.obtainment.isEngaged
    cancelled := (s.attempts.filter fun (_, token) => token.isCancelled s.fired).map (·.1) }

end State

/-- Performs steps one after the other. -/
def runFrom (s : State) : List Step → List Answer
  | [] => []
  | step :: rest =>
    let (result, s) := s.step step
    s.answer result :: runFrom s rest

/-- Performs a drill on a fresh obtainment from the provider called `id`. -/
def run (id : String) (steps : List Step) : List Answer :=
  runFrom ⟨.new ⟨0, id⟩, [], [], [], 0⟩ steps

end CoreBroker.Drill.Obtaining
