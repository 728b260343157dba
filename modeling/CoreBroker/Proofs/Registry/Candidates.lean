import CoreBroker.Proofs.Registry.Course
set_option autoImplicit false

/-!
# Candidates

Which requests a fulfiller may look at, and that a core can always be assigned to one of them.
-/

namespace CoreBroker

namespace Request

variable {κ : Type}

/-- The request still waits for a core, reserved or not. -/
def isWaiting (r : Request κ) : Bool := r.isListed && !r.isAssigned

/-- Whatever a constraint admits, the widest one admits too. -/
theorem isCandidate_all {c : Constraint} {r : Request κ} (hr : r.isCandidate c = true) :
    r.isCandidate .all = true := by
  simp only [isCandidate, Bool.and_eq_true] at hr ⊢
  exact ⟨hr.1, rfl⟩

theorem IsCoherent.assign_of_isCandidate {c : Constraint} {r : Request κ} (hr : r.IsCoherent)
    (hcandidate : r.isCandidate c = true) (core : κ) :
    r.assign core = .ok { r with isAssigned := true, core := some core, phase := .fulfilled } := by
  simp only [isCandidate, Bool.and_eq_true, Bool.not_eq_true'] at hcandidate
  rw [hr.assign_eq]
  simp only [hcandidate, Bool.false_eq_true, if_false, if_true]

end Request

namespace Registry

variable {κ : Type} {g : Registry κ}

theorem mem_candidates {c : Constraint} {r : Request κ} :
    r ∈ g.candidates c ↔ r ∈ g.requests ∧ r.isCandidate c = true := by
  simp only [candidates, List.mem_filter]

/-- Some request with this number still waits for a core. -/
def Waits (g : Registry κ) (id : Nat) : Prop :=
  ∃ r ∈ g.requests, r.id = id ∧ r.isWaiting = true

/-- Once it has been assigned a core, a request waits no more. -/
theorem not_waits_of_assign {g' : Registry κ} {id : Nat} {core : κ}
    (hassign : g.assign id core = .ok g') : ¬ g'.Waits id := by
  rintro ⟨q, hq, hid, hwaiting⟩
  obtain ⟨r, r', hget, hr, rfl⟩ := assign_eq_ok hassign
  obtain ⟨q₀, hmem, rfl⟩ := mem_modify.mp hq
  by_cases hq₀ : q₀.id = id
  · simp [hq₀, Request.isWaiting, Request.eq_of_assign hr] at hwaiting
  · simp [hq₀] at hid

/-- A request that refuses a core does not wait for one. -/
theorem not_waits_of_refused (hids : (g.requests.map (·.id)).Nodup)
    (hcoherent : ∀ r ∈ g.requests, r.IsCoherent) {id : Nat} {core : κ} {reason : Fault Nat}
    (hrefused : g.assign id core = .error reason) : ¬ g.Waits id := by
  rintro ⟨q, hq, rfl, hwaiting⟩
  simp only [Request.isWaiting, Bool.and_eq_true, Bool.not_eq_true'] at hwaiting
  have hassign : q.assign core =
      .ok { q with isAssigned := true, core := some core, phase := .fulfilled } := by
    rw [(hcoherent q hq).assign_eq]
    simp only [hwaiting, Bool.false_eq_true, if_false, if_true]
  unfold assign at hrefused
  simp [get?_of_mem hids hq, hassign] at hrefused

/-- The next request is one that a fulfiller may look at. -/
theorem next?_candidate {includeLocal : Bool} {remoteDelay : Option Nat} {now : Nat}
    {r : Request κ} (hnext : g.next? includeLocal remoteDelay now = some r) :
    r ∈ g.requests ∧ r.isCandidate .all = true := by
  have hmem := List.mem_of_mem_head? hnext
  rcases List.mem_append.mp hmem with hprimary | haged
  · obtain ⟨hr, hcandidate⟩ := List.mem_filter.mp hprimary
    exact ⟨hr, Request.isCandidate_all hcandidate⟩
  · obtain ⟨hr, hcandidate⟩ := List.mem_filter.mp haged
    simp only [Request.isAgedRemote, Bool.and_eq_true] at hcandidate
    exact ⟨hr, hcandidate.2⟩

end Registry

end CoreBroker
