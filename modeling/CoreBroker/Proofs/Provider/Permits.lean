import CoreBroker.Permits
import Mathlib.Data.List.Nodup
set_option autoImplicit false

/-!
# Permits are conserved

A permit of a stock is free, or was given to a ticket that has not been looked at since, or is in somebody's
hands.  Whatever is done with the stock moves permits between these places one at a time, and none is free
while a ticket is in the queue.
-/

namespace CoreBroker.Permits

variable {p p' : Permits} {ticket : Nat}

/-- How many permits are in nobody's hands. -/
def inStock (p : Permits) : Nat := p.free + p.granted.length

/-- The tickets that were given a permit or are in the queue. -/
def tickets (p : Permits) : List Nat := p.granted ++ p.queue

/-- What holds of every stock: nobody waits twice, or for what is free, or once it is closed. -/
structure IsSound (p : Permits) : Prop where
  tickets : p.tickets.Nodup
  waits : p.queue ≠ [] → p.free = 0
  closed : p.isClosed = true → p.queue = []

/-! ## Giving back -/

@[simp] theorem inStock_giveBack (p : Permits) : p.giveBack.inStock = p.inStock + 1 := by
  unfold giveBack inStock
  split
  · simp only
    omega
  · simp only [List.length_append, List.length_singleton]
    omega

@[simp] theorem tickets_giveBack (p : Permits) : p.giveBack.tickets = p.tickets := by
  unfold giveBack
  split
  · rfl
  · rename_i hqueue
    simp [tickets, hqueue]

@[simp] theorem isClosed_giveBack (p : Permits) : p.giveBack.isClosed = p.isClosed := by
  unfold giveBack
  split <;> rfl

theorem IsSound.giveBack (hsound : p.IsSound) : p.giveBack.IsSound := by
  refine ⟨by simpa using hsound.tickets, ?_, ?_⟩
  · unfold Permits.giveBack
    split
    · rename_i hqueue
      exact fun hwaits => absurd hqueue hwaits
    · rename_i hqueue
      exact fun _ => hsound.waits (by simp [hqueue])
  · intro hclosed
    have hqueue := hsound.closed (by simpa using hclosed)
    simp [Permits.giveBack, hqueue]

/-! ## Withdrawing -/

@[simp] theorem inStock_withdraw (p : Permits) (ticket : Nat) :
    (p.withdraw ticket).inStock = p.inStock := by
  unfold withdraw
  split
  · rename_i hgranted
    have hpos := List.length_pos_of_mem hgranted
    rw [inStock_giveBack]
    simp only [inStock, List.length_erase_of_mem hgranted]
    omega
  · rfl

@[simp] theorem isClosed_withdraw (p : Permits) (ticket : Nat) :
    (p.withdraw ticket).isClosed = p.isClosed := by
  unfold withdraw
  split
  · simp
  · rfl

theorem tickets_withdraw (hsound : p.IsSound) (ticket : Nat) :
    (p.withdraw ticket).tickets = p.tickets.erase ticket := by
  unfold withdraw
  split
  · rename_i hgranted
    rw [tickets_giveBack, tickets, tickets, List.erase_append_left _ hgranted]
  · rename_i hgranted
    have hqueue := (List.nodup_append.mp hsound.tickets).2.1
    rw [tickets, tickets, List.erase_append_right _ hgranted, hqueue.erase_eq_filter]

theorem IsSound.withdraw (hsound : p.IsSound) (ticket : Nat) : (p.withdraw ticket).IsSound := by
  refine ⟨?_, ?_, ?_⟩
  · rw [tickets_withdraw hsound]
    exact hsound.tickets.erase ticket
  · unfold Permits.withdraw
    split
    · rename_i hgranted
      have herased : ({ p with granted := p.granted.erase ticket } : Permits).IsSound := by
        refine ⟨?_, hsound.waits, hsound.closed⟩
        exact hsound.tickets.sublist (List.erase_sublist.append_right _)
      exact herased.giveBack.waits
    · exact fun hwaits => hsound.waits fun hqueue => hwaits (by simp [hqueue])
  · intro hclosed
    have hqueue := hsound.closed (by simpa using hclosed)
    unfold Permits.withdraw
    split <;> simp [Permits.giveBack, hqueue]

/-! ## Looking and closing -/

/-- Whoever gets a permit has it out of the stock, and waits no more. -/
theorem of_look_got (hsound : p.IsSound) (hlook : p.look ticket = .got p') :
    p.isClosed = false ∧ p'.isClosed = false ∧ p'.inStock + 1 = p.inStock ∧
      p'.tickets = p.tickets.erase ticket ∧ p'.IsSound := by
  unfold look at hlook
  split at hlook
  · exact absurd hlook (by simp)
  · rename_i hopen
    rw [Bool.not_eq_true] at hopen
    split at hlook
    · rename_i hgranted
      obtain rfl := Look.got.inj hlook
      have hpos := List.length_pos_of_mem hgranted
      refine ⟨hopen, hopen, ?_, (List.erase_append_left _ hgranted).symm, ?_, hsound.waits,
        hsound.closed⟩
      · simp only [inStock, List.length_erase_of_mem hgranted]
        omega
      · exact hsound.tickets.sublist (List.erase_sublist.append_right _)
    · rename_i hgranted
      split at hlook
      · exact absurd hlook (by simp)
      · rename_i hqueue
        split at hlook
        · rename_i hfree
          obtain rfl := Look.got.inj hlook
          refine ⟨hopen, hopen, ?_, ?_, hsound.tickets, fun hwaits => ?_, hsound.closed⟩
          · simp only [inStock]
            omega
          · exact (List.erase_of_not_mem (by simp [tickets, hgranted, hqueue])).symm
          · exact absurd (hsound.waits hwaits) (by omega)
        · exact absurd hlook (by simp)

/-- Whoever joins the queue finds no permit free. -/
theorem of_look_joined (hsound : p.IsSound) (hlook : p.look ticket = .joined p') :
    p.isClosed = false ∧ p'.isClosed = false ∧ p'.inStock = p.inStock ∧
      p'.tickets = p.tickets ++ [ticket] ∧ p'.IsSound := by
  unfold look at hlook
  split at hlook
  · exact absurd hlook (by simp)
  · rename_i hopen
    rw [Bool.not_eq_true] at hopen
    split at hlook
    · exact absurd hlook (by simp)
    · rename_i hgranted
      split at hlook
      · exact absurd hlook (by simp)
      · rename_i hqueue
        split at hlook
        · exact absurd hlook (by simp)
        · rename_i hfree
          obtain rfl := Look.joined.inj hlook
          have htickets : p.tickets ++ [ticket] = p.granted ++ (p.queue ++ [ticket]) :=
            List.append_assoc _ _ _
          refine ⟨hopen, hopen, rfl, htickets.symm, ?_, fun _ => Nat.eq_zero_of_not_pos hfree,
            fun hclosed => absurd (hclosed.symm.trans hopen) (by simp)⟩
          show (p.granted ++ (p.queue ++ [ticket])).Nodup
          rw [← htickets]
          refine List.nodup_append.mpr ⟨hsound.tickets, List.nodup_singleton _, ?_⟩
          rintro n hn _ hthis rfl
          rw [List.mem_singleton.mp hthis] at hn
          exact absurd hn (by simp [tickets, hgranted, hqueue])

/-- The stock is closed to whoever it refuses. -/
theorem of_look_refused (hlook : p.look ticket = .refused p') :
    p.isClosed = true ∧ p' = p.withdraw ticket := by
  unfold look at hlook
  split at hlook
  · rename_i hclosed
    exact ⟨hclosed, (Look.refused.inj hlook).symm⟩
  · repeat' split at hlook
    all_goals exact absurd hlook (by simp)

/-- Whoever waits is in the queue. -/
theorem of_look_waiting (hlook : p.look ticket = .waiting) :
    p.isClosed = false ∧ ticket ∈ p.queue := by
  unfold look at hlook
  split at hlook
  · exact absurd hlook (by simp)
  · rename_i hopen
    split at hlook
    · exact absurd hlook (by simp)
    · split at hlook
      · rename_i hqueue
        exact ⟨by simpa using hopen, hqueue⟩
      · split at hlook <;> exact absurd hlook (by simp)

theorem IsSound.close (hsound : p.IsSound) : p.close.IsSound :=
  ⟨hsound.tickets.sublist ((List.nil_sublist _).append_left _), fun h => absurd rfl h, fun _ => rfl⟩

theorem tickets_close (p : Permits) : p.close.tickets ⊆ p.tickets := by
  simp [tickets, Permits.close]

end CoreBroker.Permits
