import CoreBroker.Proofs.Registry.Availability
import CoreBroker.Proofs.Registry.Reserved
import CoreBroker.Proofs.Registry.Serving
set_option autoImplicit false

/-!
# The selection of the next request

The question whether there is a next request goes through the requests once and takes whatever request a
fulfiller may serve.  The search for the next request goes through them twice: first for those that the
primary constraint admits, and then for those that have waited long enough for a remote core.  So both
find something in the same cases, but what the search finds need not be the oldest of all that a
fulfiller may serve.
-/

namespace CoreBroker

/-- The request is one that a fulfiller of local requests, or of remotable ones, may reserve. -/
def Request.isEligible {κ : Type} (includeLocal : Bool) (remoteDelay : Option Nat) (now : Nat)
    (r : Request κ) : Bool :=
  r.isCandidate .all && r.isServable includeLocal remoteDelay now

namespace Request

variable {includeLocal : Bool} {remoteDelay : Option Nat} {now : Nat} {r : Request Core}

/-- Whatever may be reserved is a candidate of the primary constraint or has waited long enough. -/
theorem isEligible_eq : r.isEligible includeLocal remoteDelay now =
    (r.isCandidate (Registry.primaryConstraint includeLocal) ||
      r.isAgedRemote includeLocal remoteDelay now) := by
  rw [isEligible, isServable, Bool.and_or_distrib_left,
    Registry.isCandidate_eq (Registry.primaryConstraint includeLocal), isAgedRemote,
    Bool.and_comm (r.isCandidate .all) (_ && _ && _)]

theorem preference_of_isAgedRemote (haged : r.isAgedRemote includeLocal remoteDelay now = true) :
    includeLocal = true ∧ remoteDelay ≠ none ∧ r.preference = .preferRemote := by
  simp only [isAgedRemote, Bool.and_eq_true, beq_iff_eq, Option.any_eq_true] at haged
  obtain ⟨⟨⟨hlocal, hpreference⟩, delay, hdelay, -⟩, -⟩ := haged
  exact ⟨hlocal, by simp [hdelay], hpreference⟩

/-- A request that may be reserved is live, pending and unreserved, and one that is served. -/
theorem isEligible_iff : r.isEligible includeLocal remoteDelay now = true ↔
    r.isListed = true ∧ r.isAssigned = false ∧ r.isReserved = false ∧
      r.isServable includeLocal remoteDelay now = true := by
  simp [isEligible, isCandidate, Constraint.admits, and_assoc]

end Request

namespace Registry

variable {g : Registry Core} {includeLocal : Bool} {remoteDelay : Option Nat} {now : Nat}
  {r : Request Core}

/-! ## The search -/

/-- The request is the oldest of those that pass a test. -/
def IsOldest (g : Registry Core) (p : Request Core → Bool) (r : Request Core) : Prop :=
  ∃ before after, g.requests = before ++ r :: after ∧ p r = true ∧ ∀ q ∈ before, p q = false

/-- The request is the oldest candidate of the primary constraint; or there is no such candidate, and it is
the oldest of those that have waited long enough for a remote core. -/
def ComesNext (g : Registry Core) (includeLocal : Bool) (remoteDelay : Option Nat) (now : Nat)
    (r : Request Core) : Prop :=
  g.IsOldest (·.isCandidate (primaryConstraint includeLocal)) r ∨
    (∀ q ∈ g.requests, q.isCandidate (primaryConstraint includeLocal) = false) ∧
      g.IsOldest (·.isAgedRemote includeLocal remoteDelay now) r

theorem isOldest_iff {p : Request Core → Bool} : g.IsOldest p r ↔ g.requests.find? p = some r := by
  rw [List.find?_eq_some_iff_append]
  constructor
  · rintro ⟨before, after, hsplit, hr, hbefore⟩
    exact ⟨hr, before, after, hsplit, fun q hq => by simp [hbefore q hq]⟩
  · rintro ⟨hr, before, after, hsplit, hbefore⟩
    exact ⟨before, after, hsplit, hr, fun q hq => by simpa using hbefore q hq⟩

/-- The search for the next request goes through the requests twice. -/
theorem next?_eq : g.next? includeLocal remoteDelay now =
    (g.requests.find? (·.isCandidate (primaryConstraint includeLocal))).or
      (g.requests.find? (·.isAgedRemote includeLocal remoteDelay now)) := by
  rw [next?, List.head?_append, List.head?_filter, List.head?_filter]

/-- The search finds the request that comes next, and nothing else. -/
theorem next?_eq_some_iff :
    g.next? includeLocal remoteDelay now = some r ↔ g.ComesNext includeLocal remoteDelay now r := by
  rw [next?_eq, Option.or_eq_some_iff, ComesNext, isOldest_iff, isOldest_iff, List.find?_eq_none]
  simp only [Bool.not_eq_true]

theorem isEligible_of_next? (hnext : g.next? includeLocal remoteDelay now = some r) :
    r ∈ g.requests ∧ r.isEligible includeLocal remoteDelay now = true := by
  obtain ⟨hmem, hcandidate⟩ := next?_candidate hnext
  exact ⟨hmem, by rw [Request.isEligible, hcandidate, next?_servable hnext]; rfl⟩

theorem preference_of_primary (hlocal : includeLocal = true)
    (hprimary : r.isCandidate (primaryConstraint includeLocal) = true) :
    r.preference ≠ .preferRemote := by
  intro hpreference
  simp [Request.isCandidate, primaryConstraint, hlocal, hpreference, Constraint.admits] at hprimary

/-! ## The order of service -/

/-- Whatever older request is passed over prefers a remote core and has waited long enough for one, while
the next request is one that the primary constraint admits. -/
theorem passed_over (hnext : g.next? includeLocal remoteDelay now = some r) :
    ∃ before after, g.requests = before ++ r :: after ∧
      ∀ q ∈ before, q.isEligible includeLocal remoteDelay now = true →
        q.isAgedRemote includeLocal remoteDelay now = true ∧ r.preference ≠ .preferRemote := by
  rcases next?_eq_some_iff.mp hnext with ⟨before, after, hsplit, hr, hbefore⟩ |
    ⟨hnone, before, after, hsplit, -, hbefore⟩
  · refine ⟨before, after, hsplit, fun q hq heligible => ?_⟩
    have hprimary : q.isCandidate (primaryConstraint includeLocal) = false := hbefore q hq
    rw [Request.isEligible_eq, hprimary, Bool.false_or] at heligible
    exact ⟨heligible, preference_of_primary (Request.preference_of_isAgedRemote heligible).1 hr⟩
  · refine ⟨before, after, hsplit, fun q hq heligible => ?_⟩
    have hmem : q ∈ g.requests := hsplit ▸ List.mem_append_left _ hq
    have haged : q.isAgedRemote includeLocal remoteDelay now = false := hbefore q hq
    rw [Request.isEligible_eq, hnone q hmem, haged] at heligible
    exact absurd heligible (by simp)

/-- A fulfiller that is offered no request for its age gets the oldest of those that it may serve. -/
theorem isOldest_of_next? (hlate : includeLocal = false ∨ remoteDelay = none)
    (hnext : g.next? includeLocal remoteDelay now = some r) :
    g.IsOldest (·.isEligible includeLocal remoteDelay now) r := by
  obtain ⟨before, after, hsplit, hbefore⟩ := passed_over hnext
  refine ⟨before, after, hsplit, (isEligible_of_next? hnext).2, fun q hq => ?_⟩
  by_contra heligible
  obtain ⟨hlocal, hdelay, -⟩ :=
    Request.preference_of_isAgedRemote (hbefore q hq (Bool.not_eq_false _ ▸ heligible)).1
  rcases hlate with hremote | hnever
  · exact Bool.false_ne_true (hremote.symm.trans hlocal)
  · exact hdelay hnever

/-! ## The question and the search -/

theorem hasNext_eq_any_isEligible : g.hasNext includeLocal remoteDelay now =
    g.requests.any (·.isEligible includeLocal remoteDelay now) := by
  simp only [hasNext, Request.isEligible_eq]

theorem hasNext_eq_isSome : g.hasNext includeLocal remoteDelay now =
    (g.next? includeLocal remoteDelay now).isSome := by
  cases hnext : g.next? includeLocal remoteDelay now with
  | none => exact hasNext_of_next?_eq_none hnext
  | some r =>
    rw [hasNext_eq_any_isEligible]
    exact List.any_eq_true.mpr ⟨r, isEligible_of_next? hnext⟩

/-! ## Reservations -/

/-- Of a request that was not reserved, a reservation that is made and given up leaves no trace. -/
theorem unreserve_reserve (hids : (g.requests.map (·.id)).Nodup) (hr : r ∈ g.requests)
    (hfree : r.isReserved = false) : (g.reserve r.id).unreserve r.id = g := by
  obtain ⟨requests⟩ := g
  simp only [unreserve, reserve, modify, List.map_map, mk.injEq]
  refine (List.map_congr_left fun q hq => ?_).trans (List.map_id _)
  by_cases hid : q.id = r.id
  · obtain rfl := List.inj_on_of_nodup_map hids hq hr hid
    simp [← hfree]
  · simp [hid]

/-! ## One reservation after the other -/

/-- The requests that may be reserved, in the order in which they are. -/
def queue (g : Registry Core) (includeLocal : Bool) (remoteDelay : Option Nat) (now : Nat) :
    List (Request Core) :=
  g.requests.filter (·.isCandidate (primaryConstraint includeLocal)) ++
    g.requests.filter (·.isAgedRemote includeLocal remoteDelay now)

theorem head?_queue : (g.queue includeLocal remoteDelay now).head? =
    g.next? includeLocal remoteDelay now := rfl

theorem mem_queue : r ∈ g.queue includeLocal remoteDelay now ↔
    r ∈ g.requests ∧ r.isEligible includeLocal remoteDelay now = true := by
  rw [queue, List.mem_append, List.mem_filter, List.mem_filter, ← and_or_left, Request.isEligible_eq,
    Bool.or_eq_true]

/-- No request is in the queue for both reasons. -/
theorem not_isAgedRemote_of_primary
    (hprimary : r.isCandidate (primaryConstraint includeLocal) = true) :
    r.isAgedRemote includeLocal remoteDelay now = false := by
  by_contra haged
  obtain ⟨hlocal, -, hpreference⟩ :=
    Request.preference_of_isAgedRemote (Bool.not_eq_false _ ▸ haged)
  exact preference_of_primary hlocal hprimary hpreference

theorem nodup_queue (hids : (g.requests.map (·.id)).Nodup) :
    ((g.queue includeLocal remoteDelay now).map (·.id)).Nodup := by
  rw [queue, List.map_append, List.nodup_append]
  refine ⟨hids.sublist (List.filter_sublist.map _), hids.sublist (List.filter_sublist.map _), ?_⟩
  intro id hprimary id' haged hsame
  obtain ⟨q, hq, rfl⟩ := List.mem_map.mp hprimary
  obtain ⟨q', hq', rfl⟩ := List.mem_map.mp haged
  obtain ⟨hmem, hcandidate⟩ := List.mem_filter.mp hq
  obtain ⟨hmem', haged'⟩ := List.mem_filter.mp hq'
  obtain rfl := List.inj_on_of_nodup_map hids hmem hmem' hsame
  exact Bool.false_ne_true ((not_isAgedRemote_of_primary hcandidate).symm.trans haged')

/-- As many requests are in the queue as may be reserved. -/
theorem length_queue (g : Registry Core) (includeLocal : Bool) (remoteDelay : Option Nat) (now : Nat) :
    (g.queue includeLocal remoteDelay now).length =
      g.requests.countP (·.isEligible includeLocal remoteDelay now) := by
  rw [queue, List.length_append, ← List.countP_eq_length_filter, ← List.countP_eq_length_filter]
  refine countP_add fun r _ => ?_
  rw [Request.isEligible_eq]
  cases hprimary : r.isCandidate (primaryConstraint includeLocal) with
  | false => simp
  | true => simp [not_isAgedRemote_of_primary hprimary]

/-- Without the request that is reserved, a search among the unreserved finds what it found before. -/
theorem filter_reserve (id : Nat) {p : Request Core → Bool}
    (hp : ∀ q, p q = true → q.isReserved = false) :
    (g.reserve id).requests.filter p = (g.requests.filter p).filter (·.id != id) := by
  rw [reserve, modify, List.filter_map, List.filter_filter]
  have hreserved : ∀ q : Request Core, p { q with isReserved := true } = false := fun q => by
    by_contra h
    exact absurd (hp _ (Bool.not_eq_false _ ▸ h)) (by simp)
  have hsame : g.requests.filter (p ∘ fun q => if q.id == id then { q with isReserved := true } else q) =
      g.requests.filter fun q => q.id != id && p q := by
    refine List.filter_congr fun q _ => ?_
    by_cases hid : q.id = id
    · subst hid
      simp [hreserved]
    · simp [hid]
  rw [hsame]
  refine (List.map_congr_left fun q hq => ?_).trans (List.map_id _)
  have hne := (List.mem_filter.mp hq).2
  rw [Bool.and_eq_true, bne_iff_ne] at hne
  simp [hne.1]

theorem queue_reserve (hids : (g.requests.map (·.id)).Nodup) {rest : List (Request Core)}
    (hqueue : g.queue includeLocal remoteDelay now = r :: rest) :
    (g.reserve r.id).queue includeLocal remoteDelay now = rest := by
  have hnodup : ((g.queue includeLocal remoteDelay now).map (·.id)).Nodup := nodup_queue hids
  rw [hqueue, List.map_cons, List.nodup_cons] at hnodup
  have hfree : ∀ {c : Constraint} (q : Request Core), q.isCandidate c = true → q.isReserved = false := by
    intro c q hq
    simp only [Request.isCandidate, Bool.and_eq_true, Bool.not_eq_true'] at hq
    exact hq.1.2
  have hqueue' : (g.reserve r.id).queue includeLocal remoteDelay now =
      (g.queue includeLocal remoteDelay now).filter (·.id != r.id) := by
    rw [queue, queue, List.filter_append, filter_reserve r.id fun q hq => hfree q hq,
      filter_reserve r.id fun q hq => hfree q (isCandidate_of_isAgedRemote hq)]
  rw [hqueue', hqueue, List.filter_cons_of_neg (by simp)]
  refine List.filter_eq_self.mpr fun q hq => bne_iff_ne.mpr fun hid => ?_
  exact hnodup.1 (hid ▸ List.mem_map_of_mem hq)

end Registry

end CoreBroker
