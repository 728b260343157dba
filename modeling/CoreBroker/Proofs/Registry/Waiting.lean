import CoreBroker.Proofs.Registry.Candidates
import CoreBroker.Proofs.Scene.Stage
set_option autoImplicit false

/-!
# Waiting requests

A fulfiller looks at candidates, which leaves out what is reserved, and reserving is not announced.  Which
requests wait, reserved or not, changes only by what is announced; where no waiting request is reserved
the candidates are those that wait and that the constraint admits.
-/

namespace CoreBroker

/-- A waiting request that a fulfiller of local requests, or of remotable ones, serves: one that its
primary constraint admits, or one that prefers a remote core and has waited long enough. -/
def Request.isServable {κ : Type} (includeLocal : Bool) (remoteDelay : Option Nat) (now : Nat)
    (r : Request κ) : Bool :=
  (Registry.primaryConstraint includeLocal).admits r.preference ||
    (includeLocal && r.preference == .preferRemote && remoteDelay.any fun delay => delay ≤ r.age now)

theorem Request.isServable_mono {κ : Type} {includeLocal : Bool} {remoteDelay : Option Nat}
    {now later : Nat} (hle : now ≤ later) {r : Request κ}
    (hservable : r.isServable includeLocal remoteDelay now = true) :
    r.isServable includeLocal remoteDelay later = true := by
  simp only [isServable, Bool.or_eq_true, Bool.and_eq_true, Option.any_eq_true, decide_eq_true_eq]
    at hservable ⊢
  rcases hservable with hprimary | ⟨hpreference, delay, hdelay, haged⟩
  · exact .inl hprimary
  · refine .inr ⟨hpreference, delay, hdelay, Nat.le_trans haged ?_⟩
    exact Nat.sub_le_sub_right hle _

/-- Whatever the next request is, it is one that is served. -/
theorem Registry.next?_servable {κ : Type} {g : Registry κ} {includeLocal : Bool}
    {remoteDelay : Option Nat} {now : Nat} {r : Request κ}
    (hnext : g.next? includeLocal remoteDelay now = some r) :
    r.isServable includeLocal remoteDelay now = true := by
  have hmem := List.mem_of_mem_head? hnext
  rw [Request.isServable, Bool.or_eq_true]
  rcases List.mem_append.mp hmem with hprimary | haged
  · have hcandidate := (List.mem_filter.mp hprimary).2
    simp only [Request.isCandidate, Bool.and_eq_true] at hcandidate
    exact .inl hcandidate.2
  · have hcandidate := (List.mem_filter.mp haged).2
    rw [Request.isAgedRemote, Bool.and_eq_true] at hcandidate
    exact .inr hcandidate.1

namespace Registry

variable {κ : Type} {g : Registry κ}

/-- The requests that still wait for a core, reserved or not, oldest first. -/
def waiting (g : Registry κ) : List (Request κ) := g.requests.filter (·.isWaiting)

/-- No request that waits for a core is reserved. -/
def IsFree (g : Registry κ) : Prop := ∀ r ∈ g.waiting, r.isReserved = false

theorem mem_waiting {r : Request κ} : r ∈ g.waiting ↔ r ∈ g.requests ∧ r.isWaiting = true := by
  simp only [waiting, List.mem_filter]

/-! ## Candidates where nothing is reserved -/

/-- While nothing that waits is reserved, the candidates are the waiting requests that the constraint
admits. -/
theorem IsFree.isCandidate_eq (hfree : g.IsFree) (c : Constraint) {r : Request κ}
    (hr : r ∈ g.requests) : r.isCandidate c = (r.isWaiting && c.admits r.preference) := by
  have hexpand : r.isCandidate c = (r.isWaiting && !r.isReserved && c.admits r.preference) := rfl
  rw [hexpand]
  cases hwaiting : r.isWaiting with
  | false => simp only [Bool.false_and]
  | true =>
    have hreserved := hfree r (mem_waiting.mpr ⟨hr, hwaiting⟩)
    simp only [hreserved, Bool.not_false, Bool.and_true]

theorem IsFree.candidateCount_eq (hfree : g.IsFree) (c : Constraint) :
    g.candidateCount c = g.waiting.countP fun r => c.admits r.preference := by
  rw [candidateCount, waiting, List.countP_filter]
  refine List.countP_congr fun r hr => ?_
  rw [hfree.isCandidate_eq c hr, Bool.and_comm]

/-- While nothing that waits is reserved, a fulfiller may serve whatever waiting request it serves. -/
theorem IsFree.hasNext_eq (hfree : g.IsFree) (includeLocal : Bool) (remoteDelay : Option Nat)
    (now : Nat) : g.hasNext includeLocal remoteDelay now =
      g.waiting.any (·.isServable includeLocal remoteDelay now) := by
  have hservable : ∀ r ∈ g.requests, (r.isCandidate (primaryConstraint includeLocal) ||
      r.isAgedRemote includeLocal remoteDelay now) =
        (r.isWaiting && r.isServable includeLocal remoteDelay now) := by
    intro r hr
    rw [Request.isAgedRemote, hfree.isCandidate_eq _ hr, hfree.isCandidate_eq _ hr,
      Request.isServable, Bool.and_or_distrib_left]
    cases r.isWaiting <;> simp [Constraint.admits]
  rw [hasNext, waiting, List.any_filter, Bool.eq_iff_iff, List.any_eq_true, List.any_eq_true]
  constructor
  · rintro ⟨r, hr, hnext⟩
    exact ⟨r, hr, hservable r hr ▸ hnext⟩
  · rintro ⟨r, hr, hnext⟩
    exact ⟨r, hr, (hservable r hr).symm ▸ hnext⟩

/-- If no next request is found, there is none. -/
theorem hasNext_of_next?_eq_none {includeLocal : Bool} {remoteDelay : Option Nat} {now : Nat}
    (hnone : g.next? includeLocal remoteDelay now = none) :
    g.hasNext includeLocal remoteDelay now = false := by
  obtain ⟨hprimary, haged⟩ := List.append_eq_nil_iff.mp (List.head?_eq_none_iff.mp hnone)
  refine List.any_eq_false.mpr fun r hr => ?_
  have hnotPrimary := List.filter_eq_nil_iff.mp hprimary r hr
  have hnotAged := List.filter_eq_nil_iff.mp haged r hr
  rw [Bool.or_eq_true, not_or]
  exact ⟨hnotPrimary, hnotAged⟩

/-! ## Changes that are not announced -/

/-- A change of one request that shows in no waiting request. -/
theorem waiting_modify {id : Nat} {f : Request κ → Request κ}
    (hf : ∀ r ∈ g.requests, r.id = id →
      (f r).isWaiting = r.isWaiting ∧ (r.isWaiting = true → f r = r)) :
    (g.modify id f).waiting = g.waiting := by
  have hchanged : ∀ r ∈ g.requests, (if r.id == id then f r else r).isWaiting = r.isWaiting ∧
      (r.isWaiting = true → (if r.id == id then f r else r) = r) := by
    intro r hr
    split
    · rename_i hid
      exact hf r hr (eq_of_beq hid)
    · exact ⟨rfl, fun _ => rfl⟩
  rw [waiting, modify, List.filter_map, waiting]
  have hsame : g.requests.filter
      ((fun r => r.isWaiting) ∘ fun r => if r.id == id then f r else r) = g.waiting :=
    List.filter_congr fun r hr => (hchanged r hr).1
  rw [hsame]
  conv_rhs => rw [← List.map_id (g.requests.filter _)]
  refine List.map_congr_left fun r hr => ?_
  obtain ⟨hmem, hwaiting⟩ := mem_waiting.mp hr
  exact (hchanged r hmem).2 hwaiting

/-- Whatever is not announced leaves the waiting requests as they were.  What it reserves would be seen;
what it gives up is taken to be no reservation of a waiting request. -/
theorem waiting_of_becomes {g g' : Registry Core} {change : RegistryChange Core}
    (hids : (g.requests.map (·.id)).Nodup) (hcoherent : ∀ r ∈ g.requests, r.IsCoherent)
    (hbecomes : g.Becomes change g') (hquiet : g.isAnnounced change = false)
    (hspares : ∀ id, change = .unreserved id → ¬ g.Waits id) (hfree : g'.IsFree) :
    g'.waiting = g.waiting := by
  cases hbecomes with
  | entered _ _ => exact absurd hquiet (by simp [isAnnounced])
  | assigned _ => exact absurd hquiet (by simp [isAnnounced])
  | @taken q id core hget hcore =>
    obtain ⟨hq, hqid⟩ := get?_eq_some hget
    refine waiting_modify fun r hr hid => ⟨rfl, fun hwaiting => ?_⟩
    -- A request that has a core was assigned it, so it does not wait.
    rw [List.inj_on_of_nodup_map hids hr hq (hid.trans hqid.symm)] at hwaiting
    have hassigned := (hcoherent q hq).assigned_of_core (by simp [hcore])
    simp [Request.isWaiting, hassigned] at hwaiting
  | @disposed q id hget =>
    obtain ⟨hq, hqid⟩ := get?_eq_some hget
    have hunlisted : q.isListed = false := by simpa [isAnnounced, hget] using hquiet
    refine waiting_modify fun r hr hid => ?_
    rw [List.inj_on_of_nodup_map hids hr hq (hid.trans hqid.symm)]
    simp [Request.isWaiting, Request.disposed, hunlisted]
  | @reserved q hq hcandidate =>
    have hwaiting : ({ q with isReserved := true } : Request Core).isWaiting = true := by
      simp only [Request.isCandidate, Bool.and_eq_true] at hcandidate
      simp only [Request.isWaiting, Bool.and_eq_true]
      exact hcandidate.1.1
    have hmem : { q with isReserved := true } ∈ (g.reserve q.id).requests :=
      mem_modify.mpr ⟨q, hq, by simp⟩
    exact absurd (hfree _ (mem_waiting.mpr ⟨hmem, hwaiting⟩)) (by simp)
  | @unreserved id =>
    refine waiting_modify fun r hr hid => ⟨rfl, fun hwaiting => ?_⟩
    exact absurd ⟨r, hr, hid, hwaiting⟩ (hspares id rfl)

/-- Where no waiting request is reserved afterwards, none was before. -/
theorem IsFree.of_waiting {g' : Registry κ} (hfree : g'.IsFree) (hsame : g'.waiting = g.waiting) :
    g.IsFree := by
  intro r hr
  exact hfree r (hsame ▸ hr)

end Registry

end CoreBroker
