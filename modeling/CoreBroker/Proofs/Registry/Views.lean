import CoreBroker.Proofs.Lists
import CoreBroker.Proofs.Registry.Availability
set_option autoImplicit false

/-!
# Views of a registry

The counts, the summaries, the numbers of candidates and the lists of candidates are each made by a pass of
their own through the requests.  The summaries have everything that the others tell, but for which requests
are reserved.
-/

namespace CoreBroker

/-- The counts that a caller makes of summaries. -/
def Statistics.ofSummaries {ι : Type} (xs : List (Summary ι)) : Statistics where
  unfulfilledLocal := xs.countP fun x => !x.isFulfilled && x.preference.isLocal
  unfulfilledRemotable := xs.countP fun x => !x.isFulfilled && !x.preference.isLocal
  fulfilledLocal := xs.countP fun x => x.isFulfilled && x.preference.isLocal
  fulfilledRemotable := xs.countP fun x => x.isFulfilled && !x.preference.isLocal

namespace Registry

variable (g : Registry Core)

theorem statistics_eq_ofSummaries (now : Nat) : g.statistics = .ofSummaries (g.summaries now) := by
  simp only [statistics_eq_tally, tally, Statistics.ofSummaries, summaries, List.countP_map,
    Function.comp_def, Request.summary]

theorem candidateCount_eq_length (c : Constraint) : g.candidateCount c = (g.candidates c).length :=
  List.countP_eq_length_filter

/-- Candidates, as callers see them, are the summaries without those that have a core, are reserved or are
not admitted. -/
theorem summary_candidates {reservations : Nat → Nat}
    (hreservations : ∀ r ∈ g.requests, reservations r.id = r.isReserved.toNat) (c : Constraint)
    (now : Nat) : (g.candidates c).map (·.summary now) = (g.summaries now).filter fun x =>
      !x.isFulfilled && reservations x.id == 0 && c.admits x.preference := by
  rw [summaries, List.filter_map, listed, List.filter_filter, candidates]
  refine congrArg (List.map _) (List.filter_congr fun r hr => ?_)
  simp only [Function.comp_apply, Request.summary, hreservations r hr, Request.isCandidate]
  cases r.isListed <;> cases r.isReserved <;> simp

/-- Every candidate requires a local core or is remotable, and none is both. -/
theorem candidateCount_all : g.candidateCount .all =
    g.candidateCount .localRequiredOnly + g.candidateCount .localPreferredAndRemote := by
  refine (countP_add fun r _ => ?_).symm
  rw [isCandidate_eq .localRequiredOnly, isCandidate_eq .localPreferredAndRemote]
  cases r.isCandidate .all <;> cases r.preference <;> rfl

/-- The counts of waiting requests count them all. -/
theorem unfulfilled_eq_waiting :
    g.statistics.unfulfilledLocal + g.statistics.unfulfilledRemotable = g.waiting.length := by
  have hlisted : g.listed.countP (fun r => !r.isAssigned) = g.waiting.length := by
    rw [listed, List.countP_filter, waiting, ← List.countP_eq_length_filter]
    exact List.countP_congr fun r _ => by rw [Request.isWaiting, Bool.and_comm]
  rw [statistics_eq_tally, ← hlisted]
  refine countP_add fun r _ => ?_
  cases r.isAssigned <;> cases r.preference.isLocal <;> rfl

/-- Whatever waits for a core is a candidate or reserved. -/
theorem candidateCount_add_reserved :
    g.candidateCount .all + g.waiting.countP (·.isReserved) = g.waiting.length := by
  rw [waiting, List.countP_filter, ← List.countP_eq_length_filter]
  refine countP_add fun r _ => ?_
  rw [Request.isCandidate, Request.isWaiting]
  cases r.isListed <;> cases r.isAssigned <;> cases r.isReserved <;> rfl

/-- All views of the registry agree, when there are so many `reservations` of a request. -/
structure ViewsAgree (reservations : Nat → Nat) : Prop where
  /-- The counts are those of the summaries. -/
  statistics : ∀ now, g.statistics = .ofSummaries (g.summaries now)
  /-- As many requests are listed as are counted. -/
  count : ∀ c, g.candidateCount c = (g.candidates c).length
  /-- The requests listed are, in order, those of the summaries that have no core, of which there is no
  reservation and that the constraint admits. -/
  listed : ∀ c now, (g.candidates c).map (·.summary now) = (g.summaries now).filter fun x =>
    !x.isFulfilled && reservations x.id == 0 && c.admits x.preference
  split : g.candidateCount .all =
    g.candidateCount .localRequiredOnly + g.candidateCount .localPreferredAndRemote
  /-- What is unfulfilled is counted, or there is a reservation of it. -/
  balance : g.candidateCount .all + (g.waiting.map fun r => reservations r.id).sum =
    g.statistics.unfulfilledLocal + g.statistics.unfulfilledRemotable
  unfulfilled : g.statistics.unfulfilled =
    (g.candidateCount .all + (g.waiting.map fun r => reservations r.id).sum) % Statistics.counterRange

theorem viewsAgree {reservations : Nat → Nat}
    (hreservations : ∀ r ∈ g.requests, reservations r.id = r.isReserved.toNat) :
    g.ViewsAgree reservations := by
  have hlive : (g.waiting.map fun r => reservations r.id).sum = g.waiting.countP (·.isReserved) := by
    rw [← sum_map_toNat]
    exact congrArg List.sum
      (List.map_congr_left fun r hr => hreservations r (mem_waiting.mp hr).1)
  have hbalance : g.candidateCount .all + (g.waiting.map fun r => reservations r.id).sum =
      g.statistics.unfulfilledLocal + g.statistics.unfulfilledRemotable := by
    rw [hlive, candidateCount_add_reserved, unfulfilled_eq_waiting]
  exact ⟨g.statistics_eq_ofSummaries, g.candidateCount_eq_length, g.summary_candidates hreservations,
    g.candidateCount_all, hbalance, hbalance ▸ rfl⟩

end Registry

end CoreBroker
