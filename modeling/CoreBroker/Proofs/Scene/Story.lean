import CoreBroker.Proofs.Lists
import CoreBroker.Proofs.Scene.Stage
set_option autoImplicit false

/-!
# Accounts of a story

How often a story makes a core, gives it away and passes it to a request.  All accounts are sums over the
events, so the account of a whole story is the sum of the accounts of its parts.
-/

namespace CoreBroker

namespace Event

/-- The event assigns this core to a request. -/
def assigns (core : Core) : Event → Bool
  | .changed _ (.assigned _ c) => c == core
  | _ => false

/-- A core is made. -/
def isMaking : Event → Bool
  | .minted _ => true
  | _ => false

/-- A core is assigned to a request. -/
def isAssigning : Event → Bool
  | .changed _ (.assigned _ _) => true
  | _ => false

/-- A core is disposed of. -/
def isDisposing : Event → Bool
  | .disposed _ => true
  | _ => false

end Event

/-- How often a core is assigned or disposed of. -/
def spent (core : Core) (events : List Event) : Nat :=
  events.countP (·.assigns core) + events.count (.disposed core)

/-- What the events changed of the registry `b`. -/
def changesOf (b : Nat) (events : List Event) : List (RegistryChange Core) :=
  events.filterMap fun
    | .changed board change => if board = b then some change else none
    | _ => none

/-- Every core passed to a request in the course of the events was taken or handed back in the course
of them. -/
def IsSettled (events : List Event) : Prop :=
  ∀ b id core, events.count (.offered b id core) =
    events.count (.refused b id core) + events.count (.changed b (.assigned id core))

section Changes

theorem changesOf_append (b : Nat) (events events' : List Event) :
    changesOf b (events ++ events') = changesOf b events ++ changesOf b events' :=
  List.filterMap_append

@[simp] theorem changesOf_changed (b : Nat) (change : RegistryChange Core) (events : List Event) :
    changesOf b (.changed b change :: events) = change :: changesOf b events := by
  simp [changesOf]

theorem changesOf_changed_ne {b board : Nat} (hb : board ≠ b) (change : RegistryChange Core)
    (events : List Event) : changesOf b (.changed board change :: events) = changesOf b events := by
  simp [changesOf, hb]

theorem changesOf_remark {e : Event} (he : e.isRemark = true) (b : Nat) (events : List Event) :
    changesOf b (e :: events) = changesOf b events := by
  cases e <;> first | rfl | exact absurd he Bool.false_ne_true

theorem changesOf_minted (b : Nat) (core : Core) (events : List Event) :
    changesOf b (.minted core :: events) = changesOf b events := rfl

theorem mem_changesOf {b : Nat} {change : RegistryChange Core} {events : List Event} :
    change ∈ changesOf b events ↔ .changed b change ∈ events := by
  simp only [changesOf, List.mem_filterMap]
  constructor
  · rintro ⟨e, he, hchange⟩
    split at hchange
    · split at hchange
      · rename_i hb
        cases hchange
        exact hb ▸ he
      · exact absurd hchange (by simp)
    · exact absurd hchange (by simp)
  · exact fun he => ⟨_, he, by simp⟩

theorem count_changesOf (b : Nat) (change : RegistryChange Core) (events : List Event) :
    (changesOf b events).count change = events.count (.changed b change) := by
  induction events with
  | nil => rfl
  | cons e events ih =>
    rw [← List.singleton_append, changesOf_append, List.count_append, List.count_append, ih]
    congr 1
    cases e with
    | changed board other =>
      by_cases hb : board = b
      · subst hb
        by_cases hother : other = change
        · simp [changesOf, hother]
        · simp [changesOf, hother]
      · simp [changesOf, hb]
    | _ => simp [changesOf]

end Changes

section Accounts

variable {core : Core} {events events' : List Event}

@[simp] theorem spent_nil (core : Core) : spent core [] = 0 := rfl

theorem spent_append (core : Core) (events events' : List Event) :
    spent core (events ++ events') = spent core events + spent core events' := by
  simp only [spent, List.countP_append, List.count_append]
  omega

@[simp] theorem spent_disposed (core c : Core) :
    spent core [.disposed c] = (decide (c = core)).toNat := by
  by_cases hcore : c = core
  · simp [spent, Event.assigns, hcore]
  · simp [spent, Event.assigns, hcore]

@[simp] theorem spent_assigned (core c : Core) (b id : Nat) :
    spent core [.changed b (.assigned id c)] = (decide (c = core)).toNat := by
  by_cases hcore : c = core
  · simp [spent, Event.assigns, hcore]
  · simp [spent, Event.assigns, hcore]

@[simp] theorem spent_offered (core c : Core) (b id : Nat) :
    spent core [.offered b id c] = 0 := by simp [spent, Event.assigns]

@[simp] theorem spent_refused (core c : Core) (b id : Nat) :
    spent core [.refused b id c] = 0 := by simp [spent, Event.assigns]

theorem isSettled_nil : IsSettled [] := fun _ _ _ => rfl

theorem IsSettled.append (h : IsSettled events) (h' : IsSettled events') :
    IsSettled (events' ++ events) := by
  intro b id core
  have hevents := h b id core
  have hevents' := h' b id core
  simp only [List.count_append]
  omega

/-- What disposing of cores spends is those cores. -/
theorem spent_disposals (core : Core) (cores : List Core) :
    spent core (cores.map Event.disposed).reverse = cores.count core := by
  induction cores with
  | nil => rfl
  | cons c cores ih =>
    rw [List.map_cons, List.reverse_cons, spent_append, ih, spent_disposed, count_cons_toNat]

theorem count_disposals {e : Event} (he : ∀ core, e ≠ .disposed core) (cores : List Core) :
    (cores.map Event.disposed).reverse.count e = 0 := by
  rw [List.count_eq_zero]
  intro hmem
  obtain ⟨core, -, hcore⟩ := List.mem_map.mp (List.mem_reverse.mp hmem)
  exact he core hcore.symm

theorem isSettled_disposals (cores : List Core) :
    IsSettled (cores.map Event.disposed).reverse := by
  intro b id core
  rw [count_disposals (by simp) cores, count_disposals (by simp) cores,
    count_disposals (by simp) cores]

end Accounts

/-! ## Cores that change hands -/

namespace Event

/-- The core went with a call that was given up. -/
def loses (core : Core) : Event → Bool
  | .lost _ _ c => c == core
  | _ => false

/-- The core was taken out of a request. -/
def takes (core : Core) : Event → Bool
  | .changed _ (.taken _ c) => c == core
  | _ => false

/-- The core was in a request that was disposed of. -/
def closes (core : Core) : Event → Bool
  | .changed _ (.disposed _ c) => c == some core
  | _ => false

/-- The request `id` was entered. -/
def enters (id : Nat) : Event → Bool
  | .changed _ (.entered r) => r.id == id
  | _ => false

/-- A core comes into somebody's hands. -/
def brings (core : Core) : Event → Bool
  | .minted c | .changed _ (.taken _ c) => c == core
  | .changed _ (.disposed _ c) => c == some core
  | _ => false

/-- A core goes out of somebody's hands. -/
def removes (core : Core) : Event → Bool
  | .disposed c | .changed _ (.assigned _ c) | .lost _ _ c => c == core
  | _ => false

end Event

/-- How often a core came into somebody's hands. -/
def come (core : Core) (events : List Event) : Nat := events.countP (·.brings core)

/-- How often a core went out of somebody's hands. -/
def gone (core : Core) (events : List Event) : Nat := events.countP (·.removes core)

theorem come_eq (core : Core) (events : List Event) : come core events =
    events.count (.minted core) + events.countP (·.takes core) + events.countP (·.closes core) := by
  induction events with
  | nil => rfl
  | cons e events ih =>
    have hshare : (e.brings core).toNat = (decide (e = .minted core)).toNat +
        (e.takes core).toNat + (e.closes core).toNat := by
      cases e with
      | minted c => by_cases hc : c = core <;> simp [Event.brings, Event.takes, Event.closes, hc]
      | changed b change => cases change <;> simp [Event.brings, Event.takes, Event.closes]
      | _ => simp [Event.brings, Event.takes, Event.closes]
    rw [come, countP_cons_toNat, ← come, ih, hshare, count_cons_toNat, countP_cons_toNat,
      countP_cons_toNat]
    omega

theorem gone_eq (core : Core) (events : List Event) :
    gone core events = spent core events + events.countP (·.loses core) := by
  induction events with
  | nil => rfl
  | cons e events ih =>
    have hshare : (e.removes core).toNat = (e.assigns core).toNat +
        (decide (e = .disposed core)).toNat + (e.loses core).toNat := by
      cases e with
      | disposed c => by_cases hc : c = core <;> simp [Event.removes, Event.assigns, Event.loses, hc]
      | changed b change => cases change <;> simp [Event.removes, Event.assigns, Event.loses]
      | _ => simp [Event.removes, Event.assigns, Event.loses]
    rw [gone, countP_cons_toNat, ← gone, ih, hshare, spent, spent, count_cons_toNat,
      countP_cons_toNat, countP_cons_toNat]
    omega

theorem come_append (core : Core) (events events' : List Event) :
    come core (events ++ events') = come core events + come core events' :=
  List.countP_append

theorem gone_append (core : Core) (events events' : List Event) :
    gone core (events ++ events') = gone core events + gone core events' :=
  List.countP_append

@[simp] theorem come_nil (core : Core) : come core [] = 0 := rfl

@[simp] theorem gone_nil (core : Core) : gone core [] = 0 := rfl

end CoreBroker
