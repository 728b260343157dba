import CoreBroker.Proofs.Registry.Counts
import CoreBroker.Proofs.Registry.Waiting
set_option autoImplicit false

/-!
# How requests become available

A request is available while a snapshot of all requests would list it.  It becomes so in two ways: it is
entered, or its reservation is given up while it still waits.  The counts are published in the first case,
where they change, and not in the second, where they stay the same.
-/

namespace CoreBroker.Registry

variable {g g' : Registry Core} {change : RegistryChange Core} {changes : List (RegistryChange Core)}
  {r : Request Core}

theorem isCandidate_eq (c : Constraint) (q : Request Core) :
    q.isCandidate c = (q.isCandidate .all && c.admits q.preference) := by
  simp [Request.isCandidate, Constraint.admits]

theorem candidates_eq_filter (g : Registry Core) (c : Constraint) :
    g.candidates c = (g.candidates .all).filter (c.admits ·.preference) := by
  rw [candidates, candidates, List.filter_filter]
  refine List.filter_congr fun q _ => ?_
  rw [isCandidate_eq, Bool.and_comm]

/-- A fulfiller finds a next request just if it may serve one that is available. -/
theorem hasNext_eq_any (g : Registry Core) (includeLocal : Bool) (remoteDelay : Option Nat)
    (now : Nat) : g.hasNext includeLocal remoteDelay now =
      (g.candidates .all).any (·.isServable includeLocal remoteDelay now) := by
  rw [hasNext, candidates, List.any_filter]
  refine congrArg (g.requests.any ·) (funext fun q => ?_)
  rw [isCandidate_eq, Request.isAgedRemote, Request.isServable, Bool.and_or_distrib_left,
    Bool.and_comm (q.isCandidate .all) (includeLocal && _ && _)]

/-- A change of one request after which that request is no candidate brings no candidates. -/
theorem candidate_of_modify {id : Nat} {f : Request Core → Request Core}
    (hf : ∀ q ∈ g.requests, q.id = id → (f q).isCandidate .all = false)
    (hr : r ∈ (g.modify id f).candidates .all) : r ∈ g.candidates .all := by
  obtain ⟨hmem, hcandidate⟩ := mem_candidates.mp hr
  obtain ⟨q, hq, rfl⟩ := mem_modify.mp hmem
  by_cases hid : q.id = id
  · rw [if_pos (beq_iff_eq.mpr hid), hf q hq hid] at hcandidate
    exact absurd hcandidate Bool.false_ne_true
  · rw [if_neg (by simpa using hid)] at hcandidate ⊢
    exact mem_candidates.mpr ⟨hq, hcandidate⟩

/-- A candidate was one before the change, or has just been entered, or its reservation has just been
given up. -/
theorem Becomes.candidate_before (hids : (g.requests.map (·.id)).Nodup)
    (hcoherent : ∀ r ∈ g.requests, r.IsCoherent) (hbecomes : g.Becomes change g')
    (hr : r ∈ g'.candidates .all) :
    r ∈ g.candidates .all ∨ change = .entered r ∨ change = .unreserved r.id := by
  cases hbecomes with
  | @entered q _ _ =>
    obtain ⟨hmem, hcandidate⟩ := mem_candidates.mp hr
    rcases List.mem_append.mp hmem with hold | hnew
    · exact .inl (mem_candidates.mpr ⟨hold, hcandidate⟩)
    · exact .inr (.inl (congrArg _ (List.mem_singleton.mp hnew).symm))
  | @assigned _ id core hassign =>
    obtain ⟨q, q', -, hq, rfl⟩ := assign_eq_ok hassign
    refine .inl (candidate_of_modify (fun _ _ _ => ?_) hr)
    rw [Request.eq_of_assign hq]
    simp [Request.isCandidate]
  | @taken q id core hget hcore =>
    obtain ⟨hq, hqid⟩ := get?_eq_some hget
    refine .inl (candidate_of_modify (fun p hp hpid => ?_) hr)
    -- A request that has a core was assigned it.
    rw [List.inj_on_of_nodup_map hids hp hq (hpid.trans hqid.symm)]
    have hassigned := (hcoherent q hq).assigned_of_core (by simp [hcore])
    simp [Request.isCandidate, Request.withoutCore, hassigned]
  | @disposed q id hget =>
    refine .inl (candidate_of_modify (fun _ _ _ => ?_) hr)
    simp [Request.isCandidate, Request.disposed]
  | @reserved q _ _ =>
    refine .inl (candidate_of_modify (fun _ _ _ => ?_) hr)
    simp [Request.isCandidate]
  | @unreserved id =>
    obtain ⟨hmem, hcandidate⟩ := mem_candidates.mp hr
    obtain ⟨q, hq, rfl⟩ := mem_modify.mp hmem
    by_cases hid : q.id = id
    · rw [if_pos (beq_iff_eq.mpr hid)]
      exact .inr (.inr (congrArg _ hid.symm))
    · rw [if_neg (by simpa using hid)] at hcandidate ⊢
      exact .inl (mem_candidates.mpr ⟨hq, hcandidate⟩)

/-- A request that has become available was entered, and the counts after that were published, or its
reservation was given up, and nothing was published. -/
theorem Course.opens (hcourse : Course changes g) (hbecomes : g.Becomes change g')
    (hr : r ∈ g'.candidates .all) (hnew : r ∉ g.candidates .all) :
    (change = .entered r ∧ counted (change :: changes) = g'.tally :: counted changes) ∨
      (change = .unreserved r.id ∧ counted (change :: changes) = counted changes) := by
  have hcounted := hcourse.counted_cons hbecomes
  have hcoherent : ∀ r ∈ g.requests, r.IsCoherent := fun q hq =>
    (hcourse.registryHistory.requests q hq).coherent
  rcases hbecomes.candidate_before hcourse.registryHistory.ids hcoherent hr with hold | rfl | rfl
  · exact absurd hold hnew
  · exact .inl ⟨rfl, statistics_eq_tally g' ▸ hcounted⟩
  · exact .inr ⟨rfl, hcounted⟩

end CoreBroker.Registry
