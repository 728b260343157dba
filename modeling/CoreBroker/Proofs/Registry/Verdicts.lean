import CoreBroker.Proofs.Registry.Serving
set_option autoImplicit false

/-!
# What a request answers to an offer

Whether a request takes a core can be read off what was done to it before: a request that was ever
assigned a core refuses another, whatever became of the first one, and a request that was removed before it
was assigned one refuses them all.  Nothing else makes a request refuse a core.
-/

namespace CoreBroker

namespace Request

variable {κ : Type}

/-- Why the request refuses a core, if it does. -/
def verdict (r : Request κ) : Option (Fault Nat) :=
  if r.isAssigned then some (.alreadyFulfilled r.id)
  else if r.isListed then none
  else some (.requestDisposed r.id)

theorem verdict_eq_none_iff {r : Request κ} : r.verdict = none ↔ r.isWaiting = true := by
  cases hassigned : r.isAssigned <;> cases hlisted : r.isListed <;>
    simp [verdict, isWaiting, hassigned, hlisted]

/-- A coherent request that has a reason to refuse a core does so. -/
theorem IsCoherent.assign_of_verdict {r : Request κ} (hr : r.IsCoherent) {reason : Fault Nat}
    (hverdict : r.verdict = some reason) (core : κ) : r.assign core = .error reason := by
  rw [hr.assign_eq]
  cases hassigned : r.isAssigned with
  | true => simpa [verdict, hassigned] using hverdict
  | false =>
    cases hlisted : r.isListed with
    | true => simp [verdict, hassigned, hlisted] at hverdict
    | false => simpa [verdict, hassigned, hlisted] using hverdict

end Request

namespace Registry

variable {κ : Type} {changes : List (RegistryChange κ)} {id : Nat}

/-- A core was assigned to the request at some time. -/
def WasServed (changes : List (RegistryChange κ)) (id : Nat) : Prop :=
  ∃ core, .assigned id core ∈ changes

/-- The request was removed while it was still pending: by then, no core had been assigned to it. -/
def WasRemovedPending (changes : List (RegistryChange κ)) (id : Nat) : Prop :=
  ∃ later core earlier, changes = later ++ .disposed id core :: earlier ∧ ¬ WasServed earlier id

/-- The answer to an offer of a core to the request is what the changes of its registry ask for. -/
structure IsVerdict (changes : List (RegistryChange κ)) (id : Nat) (verdict : Option (Fault Nat)) :
    Prop where
  fulfilled : verdict = some (.alreadyFulfilled id) ↔ WasServed changes id
  disposed : verdict = some (.requestDisposed id) ↔ WasRemovedPending changes id
  accepted : verdict = none ↔ ¬ WasServed changes id ∧ ¬ WasRemovedPending changes id

theorem wasServed_iff : WasServed changes id ↔ 0 < changes.countP (·.assigns id) := by
  rw [List.countP_pos_iff]
  constructor
  · rintro ⟨core, hmem⟩
    exact ⟨_, hmem, by simp⟩
  · rintro ⟨change, hmem, hassigns⟩
    cases change with
    | assigned n core => exact ⟨core, eq_of_beq hassigns ▸ hmem⟩
    | _ => exact absurd hassigns Bool.false_ne_true

variable [DecidableEq κ] {g : Registry κ} {r : Request κ}

/-- A request tells by itself whether a core was ever assigned to it. -/
theorem RequestHistory.wasServed_iff (hhistory : RequestHistory changes r) :
    WasServed changes r.id ↔ r.isAssigned = true := by
  rw [Registry.wasServed_iff, hhistory.assigned]
  cases r.isAssigned <;> simp

/-- A request was removed while it was pending just if it is gone and was never assigned a core: once it
is gone, nothing is assigned to it. -/
theorem Course.wasRemovedPending_iff (hcourse : Course changes g) (hr : r ∈ g.requests) :
    WasRemovedPending changes r.id ↔ r.isAssigned = false ∧ r.isListed = false := by
  have hhistory := hcourse.registryHistory.requests r hr
  constructor
  · rintro ⟨later, core, earlier, rfl, hunserved⟩
    have hlater := hcourse.not_assigned_after_disposal
    have hearlier : earlier.countP (·.assigns r.id) = 0 :=
      Nat.eq_zero_of_not_pos fun hpos => hunserved (Registry.wasServed_iff.mpr hpos)
    have hassigned := hhistory.assigned
    have hlisted := hhistory.listed
    rw [List.countP_append, List.countP_cons, hlater, hearlier] at hassigned
    constructor
    · cases hflag : r.isAssigned with
      | false => rfl
      | true => simp [hflag] at hassigned
    · simpa using hlisted
  · rintro ⟨hassigned, hlisted⟩
    have hany := hhistory.listed
    rw [hlisted, Bool.not_false, List.any_eq_true] at hany
    obtain ⟨change, hmem, hdisposes⟩ := hany
    obtain ⟨later, earlier, rfl⟩ := List.append_of_mem hmem
    cases change with
    | disposed n core =>
      obtain rfl := eq_of_beq hdisposes
      refine ⟨later, core, earlier, rfl, fun ⟨c, hc⟩ => ?_⟩
      have hserved := hhistory.wasServed_iff.mp
        ⟨c, List.mem_append_right _ (List.mem_cons_of_mem _ hc)⟩
      exact Bool.false_ne_true (hassigned.symm.trans hserved)
    | _ => exact absurd hdisposes Bool.false_ne_true

/-- What a request answers is what its registry has gone through. -/
theorem Course.isVerdict (hcourse : Course changes g) (hr : r ∈ g.requests) :
    IsVerdict changes r.id r.verdict := by
  have hserved := (hcourse.registryHistory.requests r hr).wasServed_iff
  have hremoved := hcourse.wasRemovedPending_iff hr
  cases hassigned : r.isAssigned <;> cases hlisted : r.isListed <;>
    constructor <;> simp [Request.verdict, hserved, hremoved, hassigned, hlisted]

end Registry

end CoreBroker
