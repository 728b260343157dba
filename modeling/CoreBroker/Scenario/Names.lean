import CoreBroker.Scenario.Outcome
set_option autoImplicit false

/-!
# Names of requests

In the course of a scenario requests are known by their numbers; in what is shown they are called
`r0`, `r1` and so on, in the order in which they are first mentioned.
-/

namespace CoreBroker.Scenario

/-- Texts in order. -/
def sorted (xs : List String) : List String := xs.mergeSort fun a b => !(b < a)

/-- The requests that have names, in the order of their names. -/
abbrev Names := List Nat

namespace Names

/-- The name with the number `n`. -/
def nameAt (n : Nat) : String := "r" ++ toString n

/-- The name of a request, which gets one if it has none. -/
def nameOf (id : Nat) : StateM Names String := do
  let names ← get
  match names.idxOf? id with
  | some n => return nameAt n
  | none =>
    set (names ++ [id])
    return nameAt names.length

/-- The request called `name`. -/
def find? (names : Names) (name : String) : Option Nat :=
  match name.toList with
  | 'r' :: digits =>
    match (String.ofList digits).toNat? with
    | some n => if nameAt n == name then names[n]? else none
    | none => none
  | _ => none

/-- A phrase with the names of the requests it mentions. -/
def phrase (p : Phrase Nat) : StateM Names (Phrase String) := do
  return ⟨← p.pieces.mapM fun
    | .wording s => return .wording s
    | .request id => return .request (← nameOf id)⟩

/-- The text of a phrase that mentions requests by name. -/
def textOf (p : Phrase String) : String := p.render id

/-- A fault with the name of its request. -/
def fault : Fault Nat → StateM Names (Fault String)
  | .alreadyFulfilled id => return .alreadyFulfilled (← nameOf id)
  | .requestDisposed id => return .requestDisposed (← nameOf id)
  | .noCoreAssigned id => return .noCoreAssigned (← nameOf id)
  | .cancelled => return .cancelled
  | .invalidConfig reason => return .invalidConfig reason

/-- A summary with the name of its request. -/
def summary (s : Summary Nat) : StateM Names (Summary String) := do
  return { id := ← nameOf s.id, preference := s.preference, isFulfilled := s.isFulfilled,
           createdWall := s.createdWall, age := s.age }

/-- A description with the name of its request. -/
def info (i : Info Nat) : StateM Names (Info String) := do
  return { id := ← nameOf i.id, preference := i.preference, isFulfilled := i.isFulfilled,
           core := i.core, age := i.age, createdWall := i.createdWall,
           description := ← phrase i.description }

/-- Lines as they are shown, each made from its text by `finish`. -/
def lines (xs : List (Phrase Nat)) (isSorted : Bool) (finish : String → String) :
    StateM Names (List (Phrase String)) := do
  let texts := (← xs.mapM phrase).map fun p => finish (textOf p)
  return (if isSorted then sorted texts else texts).map Phrase.ofText

mutual
/-- An outcome with the names of the requests it mentions, from left to right. -/
def outcome : Outcome Nat → StateM Names (Outcome String)
  | .nothing => return .nothing
  | .truth b => return .truth b
  | .number n => return .number n
  | .hand names => return .hand names
  | .traced xs isSorted => return .traced (← lines xs isSorted id) isSorted
  | .logged xs isSorted => return .logged (← lines xs isSorted Log.keptText) isSorted
  | .request id => return .request (← nameOf id)
  | .requests ids => return .requests (← ids.mapM nameOf)
  | .lock name id => return .lock name (← nameOf id)
  | .snapshot name ids => return .snapshot name (← ids.mapM nameOf)
  | .core name providerId number => return .core name providerId number
  | .fulfilled => return .fulfilled
  | .accepted => return .accepted
  | .taken name => return .taken name
  | .statistics s => return .statistics s
  | .counts s => return .counts s
  | .summaries xs => return .summaries (← xs.mapM summary)
  | .info i => return .info (← info i)
  | .lockInfo id preference age => return .lockInfo (← nameOf id) preference age
  | .received count shown => return .received count shown
  | .rosterReceived xs => return .rosterReceived xs
  | .providerId id => return .providerId id
  | .providers ids => return .providers ids
  | .slots issued isClosed total available withoutTotal =>
    return .slots issued isClosed total available withoutTotal
  | .sightings xs => return .sightings xs
  | .sightingCounts tracked obtaining holding => return .sightingCounts tracked obtaining holding
  | .dedicated providerId => return .dedicated providerId
  | .speculative => return .speculative
  | .broker hasLocal hasRemote => return .broker hasLocal hasRemote
  | .down => return .down
  | .fault f => return .fault (← fault f)
  | .refused core reason => return .refused core (← fault reason)
  | .failed chain => return .failed chain
  | .panicked => return .panicked
  | .badStep => return .badStep
  | .badSettings => return .badSettings
  | .busy => return .busy
  | .pending number => return .pending number
  | .batch xs => return .batch (← outcomes xs)

/-- Outcomes with the names of the requests they mention, from left to right. -/
def outcomes : List (Outcome Nat) → StateM Names (List (Outcome String))
  | [] => return []
  | x :: xs => do
    let x ← outcome x
    return x :: (← outcomes xs)
end

end Names

end CoreBroker.Scenario
