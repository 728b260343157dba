import CoreBroker.Proofs.Registry.Identity
set_option autoImplicit false

/-!
# Serving requests that wait

A request that waits takes whatever core it is assigned.  When cores are assigned to requests one after
the other, each request ends up with its own core, all others are as they were, and the counts are
announced after each.  The requests of a registry stand in the order in which they were entered.
-/

namespace CoreBroker

/-- The request once a core has been assigned to it. -/
def Request.served {κ : Type} (r : Request κ) (core : κ) : Request κ :=
  { r with isAssigned := true, core := some core, phase := .fulfilled }

theorem Request.IsCoherent.assign_of_isWaiting {κ : Type} {r : Request κ} (hr : r.IsCoherent)
    (hwaiting : r.isWaiting = true) (core : κ) : r.assign core = .ok (r.served core) := by
  simp only [isWaiting, Bool.and_eq_true, Bool.not_eq_true'] at hwaiting
  rw [hr.assign_eq]
  simp only [hwaiting, Bool.false_eq_true, if_false, if_true, served]

theorem Request.isWaiting_of_isCandidate {κ : Type} {c : Constraint} {r : Request κ}
    (hcandidate : r.isCandidate c = true) : r.isWaiting = true := by
  simp only [isCandidate, Bool.and_eq_true] at hcandidate
  rw [isWaiting, Bool.and_eq_true]
  exact hcandidate.1.1

/-- The number of the request that a change enters. -/
def RegistryChange.enteredId? {κ : Type} : RegistryChange κ → Option Nat
  | .entered r => some r.id
  | _ => none

namespace Registry

variable {κ : Type} {g : Registry κ} {id : Nat}

/-! ## One core -/

/-- The registry once a core has been assigned to a request. -/
def serve (g : Registry κ) (entry : Nat × κ) : Registry κ := g.modify entry.1 (·.served entry.2)

theorem assign_of_isWaiting (hids : (g.requests.map (·.id)).Nodup) {r : Request κ}
    (hr : r ∈ g.requests) (hcoherent : r.IsCoherent) (hwaiting : r.isWaiting = true) (core : κ) :
    g.assign r.id core = .ok (g.serve (r.id, core)) := by
  simp only [assign, get?_of_mem hids hr, hcoherent.assign_of_isWaiting hwaiting core]
  refine congrArg Except.ok (congrArg Registry.mk (List.map_congr_left fun q hq => ?_))
  by_cases hid : q.id = r.id
  · rw [List.inj_on_of_nodup_map hids hq hr hid]
  · simp [hid]

theorem get?_serve (g : Registry κ) (entry : Nat × κ) (id : Nat) : (g.serve entry).get? id =
    (g.get? id).map fun r => if r.id == entry.1 then r.served entry.2 else r :=
  get?_modify fun _ hid => hid

theorem get?_serve_ne (g : Registry κ) {entry : Nat × κ} (hid : id ≠ entry.1) :
    (g.serve entry).get? id = g.get? id := by
  rw [get?_serve]
  cases hget : g.get? id with
  | none => rfl
  | some r =>
    have hne : r.id ≠ entry.1 := (get?_eq_some hget).2 ▸ hid
    simp [hne]

theorem get?_serve_self (g : Registry κ) (entry : Nat × κ) :
    (g.serve entry).get? entry.1 = (g.get? entry.1).map (·.served entry.2) := by
  rw [get?_serve]
  cases hget : g.get? entry.1 with
  | none => rfl
  | some r => simp [(get?_eq_some hget).2]

/-! ## Several cores -/

/-- The registry once cores have been assigned to requests, one after the other. -/
def serveAll (g : Registry κ) (entries : List (Nat × κ)) : Registry κ := entries.foldl serve g

/-- The counts after each of these assignments. -/
def countsOf (g : Registry κ) : List (Nat × κ) → List Statistics
  | [] => []
  | entry :: entries => (g.serve entry).statistics :: (g.serve entry).countsOf entries

@[simp] theorem length_countsOf (g : Registry κ) (entries : List (Nat × κ)) :
    (g.countsOf entries).length = entries.length := by
  induction entries generalizing g with
  | nil => rfl
  | cons entry entries ih => rw [countsOf, List.length_cons, ih, List.length_cons]

theorem get?_serveAll_of_not_mem {entries : List (Nat × κ)} (hid : id ∉ entries.map (·.1)) :
    (g.serveAll entries).get? id = g.get? id := by
  induction entries generalizing g with
  | nil => rfl
  | cons entry entries ih =>
    rw [List.map_cons, List.mem_cons, not_or] at hid
    rw [serveAll, List.foldl_cons]
    exact (ih hid.2).trans (get?_serve_ne g hid.1)

/-- Of requests that are served once each, every one has its own core. -/
theorem get?_serveAll_of_mem {entries : List (Nat × κ)} (hids : (entries.map (·.1)).Nodup)
    {entry : Nat × κ} (hentry : entry ∈ entries) :
    (g.serveAll entries).get? entry.1 = (g.get? entry.1).map (·.served entry.2) := by
  induction entries generalizing g with
  | nil => exact absurd hentry List.not_mem_nil
  | cons first entries ih =>
    rw [List.map_cons, List.nodup_cons] at hids
    rw [serveAll, List.foldl_cons]
    rcases List.mem_cons.mp hentry with rfl | hrest
    · exact (get?_serveAll_of_not_mem hids.1).trans (get?_serve_self g entry)
    · have hne : entry.1 ≠ first.1 := fun hsame => hids.1 (hsame ▸ List.mem_map_of_mem hrest)
      exact (ih hids.2 hrest).trans (congrArg _ (get?_serve_ne g hne))

/-! ## The order of requests -/

theorem ids_modify {f : Request κ → Request κ} (hf : ∀ r, r.id = id → (f r).id = id) :
    (g.modify id f).requests.map (·.id) = g.requests.map (·.id) := by
  simp only [modify, List.map_map]
  refine List.map_congr_left fun r _ => ?_
  by_cases hid : r.id = id
  · simp [hid, hf r hid]
  · simp [hid]

/-- A request is entered behind all others, and otherwise the order stays. -/
theorem Becomes.ids_eq {g' : Registry κ} {change : RegistryChange κ} (hbecomes : g.Becomes change g') :
    g'.requests.map (·.id) = g.requests.map (·.id) ++ change.enteredId?.toList := by
  cases hbecomes with
  | @entered r _ _ => exact List.map_append
  | assigned hassign =>
    obtain ⟨r, r', hget, hr, rfl⟩ := assign_eq_ok hassign
    have hid : r'.id = _ := (congrArg Request.id (Request.eq_of_assign hr)).trans (get?_eq_some hget).2
    exact (ids_modify fun _ _ => hid).trans (List.append_nil _).symm
  | taken _ _ | disposed _ | reserved _ _ | unreserved =>
    refine Eq.trans ?_ (List.append_nil _).symm
    exact ids_modify fun _ hid => hid

/-- The requests of a registry stand in the order in which they were entered. -/
theorem Course.ids_eq {changes : List (RegistryChange κ)} (hcourse : Course changes g) :
    g.requests.map (·.id) = (changes.filterMap (·.enteredId?)).reverse := by
  induction hcourse with
  | start => rfl
  | @next changes change _ _ _ hbecomes ih =>
    rw [hbecomes.ids_eq, ih, List.filterMap_cons]
    cases change.enteredId? with
    | none => exact List.append_nil _
    | some id => exact (List.reverse_cons).symm

end Registry

end CoreBroker
