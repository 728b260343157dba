import CoreBroker.Window
set_option autoImplicit false

/-!
# Change channels

A channel announces values to any number of receivers.  Announcing never waits and never fails: with
no receiver the value is dropped, and a receiver that falls too far behind is told how many values it
missed and goes on with the oldest one still kept.  Values are numbered from zero; a receiver is a
cursor at the number of the value it gets next.
-/

namespace CoreBroker

/-- How many values are kept for slow receivers, unless asked otherwise. -/
def defaultChannelCapacity : Nat := 256

/-- A channel with its receivers, known by the number they were given on subscription. -/
structure Channel (α : Type) where
  /-- The newest values. -/
  window : Window α
  /-- How many values have been announced; the number of the next one. -/
  sent : Nat
  /-- The cursors of the receivers. -/
  cursors : List (Nat × Nat)
  /-- How many receivers there have ever been. -/
  issued : Nat
  /-- Whether values can still be announced. -/
  isOpen : Bool
  deriving Repr

/-- What a receiver finds when it looks. -/
inductive Received (α : Type) where
  | value (a : α)
  | lagged (missed : Nat)
  | empty
  | closed
  deriving DecidableEq, Repr

namespace Channel

variable {α : Type}

/-- The greatest capacity that can be asked for. -/
def maxCapacity : Nat := UInt64.size / 2 - 1

/-- A channel that keeps at least one and at least `capacity` values; the number is rounded up to a
power of two. -/
def new (capacity : Nat) : Channel α :=
  { window := .empty (max capacity 1).nextPowerOfTwo, sent := 0, cursors := [], issued := 0,
    isOpen := true }

/-- A channel of the given capacity, if it is not too great. -/
def new? (capacity : Nat) : Option (Channel α) :=
  if capacity ≤ maxCapacity then some (new capacity) else none

instance : Inhabited (Channel α) := ⟨new defaultChannelCapacity⟩

/-- The number of the oldest value kept. -/
def oldest (c : Channel α) : Nat := c.sent - c.window.size

/-- Where a receiver stands; one that does not exist waits for the next value. -/
def cursor (c : Channel α) (r : Nat) : Nat := (c.cursors.lookup r).getD c.sent

/-- Moves a receiver. -/
def setCursor (c : Channel α) (r position : Nat) : Channel α :=
  { c with cursors := c.cursors.map fun (k, p) => if k == r then (k, position) else (k, p) }

/-- How many receivers there are. -/
def receiverCount (c : Channel α) : Nat := c.cursors.length

/-- A new receiver of the values to come. -/
def subscribe (c : Channel α) : Nat × Channel α :=
  (c.issued, { c with cursors := c.cursors ++ [(c.issued, c.sent)], issued := c.issued + 1 })

/-- Gives up a receiver. -/
def unsubscribe (c : Channel α) (r : Nat) : Channel α :=
  { c with cursors := c.cursors.filter fun (k, _) => k != r }

/-- Announces a value and tells how many receivers will get it. -/
def announce (c : Channel α) (a : α) : Nat × Channel α :=
  if c.cursors.isEmpty then (0, c)
  else (c.cursors.length, { c with window := c.window.push a, sent := c.sent + 1 })

/-- Closes the channel: nothing more will be announced. -/
def close (c : Channel α) : Channel α := { c with isOpen := false }

/-- What a receiver gets next, and the channel after it was got. -/
def poll (c : Channel α) (r : Nat) : Received α × Channel α :=
  if c.cursor r < c.oldest then
    (.lagged (c.oldest - c.cursor r), c.setCursor r c.oldest)
  else
    match c.window.toList[c.cursor r - c.oldest]? with
    | some a => (.value a, c.setCursor r (c.cursor r + 1))
    | none => (if c.isOpen then .empty else .closed, c)

/-- Whether a receiver would find anything but emptiness. -/
def isReady (c : Channel α) (r : Nat) : Bool := c.cursor r < c.sent || !c.isOpen

/-! ## Draining -/

theorem lookup_map_set (cursors : List (Nat × Nat)) (r position : Nat) :
    (cursors.map fun (k, p) => if k == r then (k, position) else (k, p)).lookup r =
      (cursors.lookup r).map fun _ => position := by
  induction cursors with
  | nil => rfl
  | cons e rest ih =>
    obtain ⟨k, p⟩ := e
    by_cases h : k = r
    · subst h
      simp only [List.map_cons, beq_self_eq_true, if_true, List.lookup_cons_self, Option.map_some]
    · have h' : (r == k) = false := by simpa using fun e => h e.symm
      have h'' : (k == r) = false := by simpa using h
      simpa only [List.map_cons, h'', Bool.false_eq_true, if_false, List.lookup_cons, h'] using ih

theorem cursor_setCursor (c : Channel α) (r position : Nat) :
    (c.setCursor r position).cursor r =
      if (c.cursors.lookup r).isSome then position else c.sent := by
  simp only [cursor, setCursor, lookup_map_set]
  cases c.cursors.lookup r <;> rfl

theorem sent_setCursor (c : Channel α) (r position : Nat) :
    (c.setCursor r position).sent = c.sent := rfl

theorem cursor_eq_sent_of_lookup {c : Channel α} {r : Nat} (h : c.cursors.lookup r = none) :
    c.cursor r = c.sent := by
  simp [cursor, h]

/-- How many values are still to come to a receiver, kept or not. -/
def backlog (c : Channel α) (r : Nat) : Nat := c.sent - c.cursor r

/-- Looking takes something from the backlog unless there is nothing to get. -/
theorem backlog_poll_lt (c : Channel α) (r : Nat) (h : c.cursor r < c.oldest ∨
    (c.window.toList[c.cursor r - c.oldest]?).isSome) (hs : c.cursor r < c.sent) :
    (c.poll r).2.backlog r < c.backlog r := by
  have hl : (c.cursors.lookup r).isSome := by
    cases hc : c.cursors.lookup r with
    | none => rw [cursor_eq_sent_of_lookup hc] at hs; omega
    | some p => rfl
  unfold poll
  by_cases hlag : c.cursor r < c.oldest
  · have ho : c.oldest ≤ c.sent := Nat.sub_le _ _
    simp only [hlag, if_true, backlog, cursor_setCursor, hl, sent_setCursor]
    omega
  · simp only [hlag, false_or] at h
    obtain ⟨a, ha⟩ := Option.isSome_iff_exists.1 h
    simp only [hlag, if_false, ha, backlog, cursor_setCursor, hl, if_true, sent_setCursor]
    omega

/-- Everything a receiver can get now, in order. -/
def pollAll (c : Channel α) (r : Nat) : List (Received α) × Channel α :=
  if _h : c.cursor r < c.sent ∧
      (c.cursor r < c.oldest ∨ (c.window.toList[c.cursor r - c.oldest]?).isSome) then
    let (rest, after) := pollAll (c.poll r).2 r
    ((c.poll r).1 :: rest, after)
  else ([], c)
termination_by c.backlog r
decreasing_by exact backlog_poll_lt c r _h.2 _h.1

/-- Takes everything a receiver can get now, and tells whether the channel is still open. -/
def drain (c : Channel α) (r : Nat) : Bool × Channel α :=
  if _h : c.cursor r < c.sent ∧
      (c.cursor r < c.oldest ∨ (c.window.toList[c.cursor r - c.oldest]?).isSome) then
    drain (c.poll r).2 r
  else (c.isOpen, c)
termination_by c.backlog r
decreasing_by exact backlog_poll_lt c r _h.2 _h.1

end Channel

end CoreBroker
