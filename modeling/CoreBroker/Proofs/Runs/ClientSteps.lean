import CoreBroker.Proofs.Dedicated.Steps
import CoreBroker.Proofs.Runs.Moves
import CoreBroker.Proofs.Scene.Marks
import CoreBroker.Proofs.Speculative.Custody
set_option autoImplicit false

/-!
# Client steps

Cores in the hands of the client, cores that are on the way to a request, requests that have been drafted
but not entered, and reservations.  A client step is whatever the client or one of its errands does to
the world; it says how the events account for what the client has afterwards, and that nothing of the
fulfillers is touched but their sinks and the queues for their guards.
-/

namespace CoreBroker

/-! ## What an errand has -/

namespace Errand

/-- The core that an errand has. -/
def core? : Errand → Option Core
  | .assign _ core | .probe core _ _ => some core
  | _ => none

/-- The request to which an errand passes a core, with its registry. -/
def passing? : Errand → Option (Nat × Nat × Core)
  | .assign lock core => some (lock.board, lock.request, core)
  | _ => none

/-- The request that an errand has drafted and not entered. -/
def draft? : Errand → Option (Request Core)
  | .create _ _ _ _ draft _ => draft
  | .reserve _ _ _ _ (.entering draft) => some draft
  | _ => none

/-- The errand has this core. -/
def carries (core : Core) (e : Errand) : Bool := e.core? == some core

/-- The errand passes this core to this request. -/
def passes (board request : Nat) (core : Core) (e : Errand) : Bool :=
  e.passing? == some (board, request, core)

/-- The errand has drafted the request `id`. -/
def drafts (id : Nat) (e : Errand) : Bool := e.draft?.any (·.id == id)

/-- Nothing has happened to the request that the errand has drafted. -/
def IsFresh (e : Errand) : Prop := ∀ q, e.draft? = some q → q.IsFresh

end Errand

/-- A number is between the first bound and the last if it is between two that follow one another. -/
theorem toNat_between_add {first middle last : Nat} (n : Nat) (hfirst : first ≤ middle)
    (hlast : middle ≤ last) : (decide (first ≤ n ∧ n < middle)).toNat +
      (decide (middle ≤ n ∧ n < last)).toNat = (decide (first ≤ n ∧ n < last)).toNat := by
  by_cases hmiddle : n < middle
  · have hbelow : n < last := by omega
    simp [hmiddle, hbelow, Nat.not_le.mpr hmiddle]
  · have habove : first ≤ n := by omega
    simp [hmiddle, habove, Nat.not_lt.mp hmiddle]

/-! ## Fulfillers apart from what the client may change of them -/

/-- The fulfiller without its sink. -/
def Dedicated.bare (f : Dedicated) : Dedicated := { f with sink := .nowhere }

/-- The fulfiller without its sink and the guard of its obtainments. -/
def Speculative.bare (f : Speculative) : Speculative := { f with sink := .nowhere, guard := {} }

/-- Whatever looks like something that is there, is there too. -/
theorem exists_of_map_eq {α β : Type} {see : α → β} {x x' : Option α} {a' : α}
    (hsame : x'.map see = x.map see) (hx' : x' = some a') : ∃ a, x = some a ∧ see a' = see a := by
  rw [hx'] at hsame
  obtain ⟨a, ha, heq⟩ := Option.map_eq_some_iff.mp hsame.symm
  exact ⟨a, ha, heq.symm⟩

theorem Dedicated.eq_of_bare {f f' : Dedicated} (hbare : f'.bare = f.bare) :
    f' = { f with sink := f'.sink } :=
  congrArg (fun g : Dedicated => { g with sink := f'.sink }) hbare

theorem Speculative.eq_of_bare {f f' : Speculative} (hbare : f'.bare = f.bare) :
    f' = { f with sink := f'.sink, guard := f'.guard } :=
  congrArg (fun g : Speculative => { g with sink := f'.sink, guard := f'.guard }) hbare

namespace World

/-! ## What the client has

`e` is an errand that is just taking a step and is counted besides those in the list. -/

/-- How often the client has a core. -/
def kept (w : World) (e : Option Errand) (core : Core) : Nat :=
  w.hand.count core + w.errands.countP (·.2.carries core) + e.toList.countP (·.carries core)

/-- How often the client is passing a core to a request. -/
def passing (w : World) (e : Option Errand) (board request : Nat) (core : Core) : Nat :=
  w.errands.countP (·.2.passes board request core) + e.toList.countP (·.passes board request core)

/-- How often the client has drafted the request `id`. -/
def drafted (w : World) (e : Option Errand) (id : Nat) : Nat :=
  w.errands.countP (·.2.drafts id) + e.toList.countP (·.drafts id)

/-- How many reservations of a request the client holds. -/
def locked (w : World) (board request : Nat) : Nat :=
  w.locks.countP fun lock => lock.board == board && lock.request == request

/-- Errands and reservations have numbers of their own, and drafted requests are fresh. -/
structure IsOrderly (w : World) : Prop where
  errands : (w.errands.map (·.1)).Nodup
  errandsBelow : ∀ e ∈ w.errands, e.1 < w.scene.nextSerial
  locks : (w.locks.map (·.serial)).Nodup
  locksBelow : ∀ lock ∈ w.locks, lock.serial < w.scene.nextSerial
  lockBoards : ∀ lock ∈ w.locks, lock.board < w.scene.stage.boards.length
  fresh : ∀ e ∈ w.errands, e.2.IsFresh

/-- What holds of the world whenever no task is taking a step. -/
structure IsSound (w : World) : Prop where
  scene : w.scene.IsSound
  dedicated : ∀ f ∈ w.dedicated, f.IsSound
  speculative : ∀ f ∈ w.speculative, f.IsSound w.scene.nextSerial
  orderly : w.IsOrderly
  /-- No two requests ever have the same number. -/
  numbers : ∀ id, w.drafted none id + w.scene.story.countP (·.enters id) ≤ 1
  numbersBelow : ∀ id, w.scene.nextSerial ≤ id →
    w.drafted none id + w.scene.story.countP (·.enters id) = 0

/-- What the client may do: it has no receivers but its own. -/
def May (w : World) (_ : Stage) : Act → Prop
  | .looked board receiver | .left board receiver => w.isOwned board receiver = false
  | .lookedAtRoster roster receiver | .leftRoster roster receiver =>
    w.isOwnedOfRoster roster receiver = false
  | _ => True

/-- The loop of a fulfiller is over. -/
def isOver (w : World) : Task → Bool
  | .dedicated i => (w.dedicated[i]?).any (·.isOver)
  | .speculative i => (w.speculative[i]?).any (·.isOver)
  | _ => false

/-- What the client does, or the errand `before` of it, which is `after` from then on. -/
structure ClientStep (w : World) (actor : Option Task) (before : Option Errand) (events : List Event)
    (w' : World) (after : Option Errand) : Prop where
  acts : w.scene.ActSequence w.May events w'.scene
  dedicated : w'.dedicated.map Dedicated.bare = w.dedicated.map Dedicated.bare
  speculative : w'.speculative.map Speculative.bare = w.speculative.map Speculative.bare
  /-- No loop loses the guard of its obtainments. -/
  guards : ∀ (i : Nat) (f f' : Speculative), w.speculative[i]? = some f →
    w'.speculative[i]? = some f' → f.guard.holder = some (.speculative i) →
    f'.guard.holder = some (.speculative i)
  orderly : w.IsOrderly → w'.IsOrderly
  fresh : (∀ e ∈ before, e.IsFresh) → ∀ e ∈ after, e.IsFresh
  cores : ∀ core, w'.kept after core + gone core events ≤ w.kept before core + come core events
  passings : ∀ b id core, w'.passing after b id core + (events.count (.refused b id core) +
      events.count (.lost b id core) + events.count (.changed b (.assigned id core))) =
    w.passing before b id core + events.count (.offered b id core)
  drafts : ∀ id, w'.drafted after id + events.countP (·.enters id) ≤ w.drafted before id +
    (decide (w.scene.nextSerial ≤ id ∧ id < w'.scene.nextSerial)).toNat
  locks : ∀ b id, w'.locked b id + events.count (.changed b (.unreserved id)) =
    w.locked b id + events.count (.changed b (.reserved id))
  /-- Nobody but the client reserves anything, and it holds what it has reserved. -/
  marks : w.scene.stage.IsSound → ∀ b id, w'.scene.stage.IsMarked b id → 0 < w'.locked b id ∨
    (.changed b (.unreserved id) ∉ events ∧ w.scene.stage.IsMarked b id)
  /-- An errand disposes of what was in requests that it disposes of. -/
  closings : ∀ core, events.countP (·.closes core) =
    if actor.isSome then events.count (.disposed core) else 0
  stopped : ∀ t, .stopped t ∈ events → w.isOver t = true

/-! ## Fulfillers with the same bare form -/

section Bare

variable {w w' : World}

theorem isOwned_eq (hdedicated : w'.dedicated.map Dedicated.bare = w.dedicated.map Dedicated.bare)
    (hspeculative : w'.speculative.map Speculative.bare = w.speculative.map Speculative.bare)
    (b r : Nat) : w'.isOwned b r = w.isOwned b r := by
  have hd : ∀ fs : List Dedicated, fs.any (fun f => f.board == b && f.receiver == r) =
      (fs.map Dedicated.bare).any (fun f => f.board == b && f.receiver == r) := fun fs => by
    rw [List.any_map]
    rfl
  have hs : ∀ fs : List Speculative, fs.any (fun f => f.board == b && f.requestReceiver == r) =
      (fs.map Speculative.bare).any (fun f => f.board == b && f.requestReceiver == r) := fun fs => by
    rw [List.any_map]
    rfl
  rw [isOwned, isOwned, hd, hs, hdedicated, hspeculative, ← hd, ← hs]

theorem isOwnedOfRoster_eq
    (hspeculative : w'.speculative.map Speculative.bare = w.speculative.map Speculative.bare)
    (i r : Nat) : w'.isOwnedOfRoster i r = w.isOwnedOfRoster i r := by
  have hs : ∀ fs : List Speculative, fs.any (fun f => f.roster == i && f.rosterReceiver == r) =
      (fs.map Speculative.bare).any (fun f => f.roster == i && f.rosterReceiver == r) := fun fs => by
    rw [List.any_map]
    rfl
  rw [isOwnedOfRoster, isOwnedOfRoster, hs, hspeculative, ← hs]

theorem may_eq (hdedicated : w'.dedicated.map Dedicated.bare = w.dedicated.map Dedicated.bare)
    (hspeculative : w'.speculative.map Speculative.bare = w.speculative.map Speculative.bare) :
    w'.May = w.May := by
  funext st act
  cases act <;>
    simp only [May, isOwned_eq hdedicated hspeculative, isOwnedOfRoster_eq hspeculative]

theorem isOver_eq (hdedicated : w'.dedicated.map Dedicated.bare = w.dedicated.map Dedicated.bare)
    (hspeculative : w'.speculative.map Speculative.bare = w.speculative.map Speculative.bare)
    (t : Task) : w'.isOver t = w.isOver t := by
  have hd : ∀ (fs : List Dedicated) (i : Nat), (fs[i]?).any (·.isOver) =
      ((fs.map Dedicated.bare)[i]?).any (·.isOver) := fun fs i => by
    rw [List.getElem?_map, Option.any_map]
    rfl
  have hs : ∀ (fs : List Speculative) (i : Nat), (fs[i]?).any (·.isOver) =
      ((fs.map Speculative.bare)[i]?).any (·.isOver) := fun fs i => by
    rw [List.getElem?_map, Option.any_map]
    rfl
  cases t with
  | dedicated i => rw [isOver, isOver, hd, hdedicated, ← hd]
  | speculative i => rw [isOver, isOver, hs, hspeculative, ← hs]
  | attempt i serial => rfl
  | errand serial => rfl

end Bare

/-! ## Client steps one after the other -/

namespace ClientStep

variable {w w₁ w₂ : World} {actor : Option Task} {e e₁ e₂ : Option Errand}
  {events events' : List Event}

theorem refl (w : World) (actor : Option Task) (e : Option Errand) : ClientStep w actor e [] w e where
  acts := .refl
  dedicated := rfl
  speculative := rfl
  guards i f f' hf hf' hholder := by
    rw [hf] at hf'
    cases hf'
    exact hholder
  orderly h := h
  fresh h := h
  cores _ := Nat.le_refl _
  passings _ _ _ := rfl
  drafts _ := Nat.le_add_right _ _
  locks _ _ := rfl
  marks _ _ _ hmarked := .inr ⟨List.not_mem_nil, hmarked⟩
  closings _ := by simp
  stopped t ht := absurd ht List.not_mem_nil

theorem trans (h₁ : ClientStep w actor e events w₁ e₁) (h₂ : ClientStep w₁ actor e₁ events' w₂ e₂) :
    ClientStep w actor e (events' ++ events) w₂ e₂ where
  acts := by
    have hmay := may_eq h₁.dedicated h₁.speculative
    exact h₁.acts.trans (hmay ▸ h₂.acts)
  dedicated := h₂.dedicated.trans h₁.dedicated
  speculative := h₂.speculative.trans h₁.speculative
  guards i f f' hf hf' hholder := by
    have hmid : i < w₁.speculative.length := by
      have hlength := congrArg List.length h₁.speculative
      rw [List.length_map, List.length_map] at hlength
      rw [hlength]
      exact (List.getElem?_eq_some_iff.mp hf).1
    have hmid' := List.getElem?_eq_getElem hmid
    exact h₂.guards i _ f' hmid' hf' (h₁.guards i f _ hf hmid' hholder)
  orderly h := h₂.orderly (h₁.orderly h)
  fresh h := h₂.fresh (h₁.fresh h)
  cores core := by
    have hfirst := h₁.cores core
    have hsecond := h₂.cores core
    rw [gone_append, come_append]
    omega
  passings b id core := by
    have hfirst := h₁.passings b id core
    have hsecond := h₂.passings b id core
    simp only [List.count_append]
    omega
  drafts id := by
    have hfirst := h₁.drafts id
    have hsecond := h₂.drafts id
    have hle₁ := h₁.acts.serial_le
    have hle₂ := h₂.acts.serial_le
    have hsplit := toNat_between_add id hle₁ hle₂
    rw [List.countP_append]
    omega
  locks b id := by
    have hfirst := h₁.locks b id
    have hsecond := h₂.locks b id
    simp only [List.count_append]
    omega
  marks hstage b id hmarked := by
    rcases h₂.marks (h₁.acts.stage_isSound hstage) b id hmarked with hlocked | ⟨hnot', hmid⟩
    · exact .inl hlocked
    · rcases h₁.marks hstage b id hmid with hlocked | ⟨hnot, hbefore⟩
      · have hlocks := h₂.locks b id
        rw [List.count_eq_zero.mpr hnot'] at hlocks
        exact .inl (by omega)
      · refine .inr ⟨fun hmem => ?_, hbefore⟩
        rcases List.mem_append.mp hmem with hmem | hmem
        · exact hnot' hmem
        · exact hnot hmem
  closings core := by
    have hfirst := h₁.closings core
    have hsecond := h₂.closings core
    rw [List.countP_append, List.count_append, hfirst, hsecond]
    split <;> omega
  stopped t ht := by
    rcases List.mem_append.mp ht with ht | ht
    · rw [← isOver_eq h₁.dedicated h₁.speculative]
      exact h₂.stopped t ht
    · exact h₁.stopped t ht

end ClientStep

end World

end CoreBroker
