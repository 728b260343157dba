import CoreBroker.Proofs.Lists
import CoreBroker.Registry
import Mathlib.Data.List.Nodup
set_option autoImplicit false

/-!
# The course of a registry

A registry is what its changes have made of it.  Each change is made only when it may be made, and
from the list of changes, newest first, one can tell the state of every request: whether it was
assigned a core, whether it is still listed, and which core is in it.
-/

namespace CoreBroker

namespace Request

variable {κ : Type}

/-- Nothing has happened to the request yet. -/
structure IsFresh (r : Request κ) : Prop where
  isAssigned : r.isAssigned = false
  core : r.core = none
  phase : r.phase = .pending
  isReserved : r.isReserved = false
  isListed : r.isListed = true

/-- The completion signal that goes with an assignment and with being listed. -/
def impliedPhase (r : Request κ) : RequestPhase :=
  if r.isAssigned then .fulfilled else if r.isListed then .pending else .disposed

/-- The parts of a request agree with each other: the signal says what became of it, and only a listed
request that was assigned has a core. -/
structure IsCoherent (r : Request κ) : Prop where
  phase : r.phase = r.impliedPhase
  assigned_of_core : r.core.isSome → r.isAssigned = true
  listed_of_core : r.core.isSome → r.isListed = true

theorem IsFresh.isCoherent {r : Request κ} (hr : r.IsFresh) : r.IsCoherent where
  phase := by simp only [impliedPhase, hr.phase, hr.isAssigned, hr.isListed, Bool.false_eq_true,
    if_false, if_true]
  assigned_of_core hcore := by simp [hr.core] at hcore
  listed_of_core hcore := by simp [hr.core] at hcore

/-- A coherent request takes a core just if it has none yet and is still listed. -/
theorem IsCoherent.assign_eq {r : Request κ} (hr : r.IsCoherent) (core : κ) :
    r.assign core = (if r.isAssigned then .error (.alreadyFulfilled r.id)
      else if r.isListed then
        .ok { r with isAssigned := true, core := some core, phase := .fulfilled }
      else .error (.requestDisposed r.id)) := by
  have hphase := hr.phase
  unfold impliedPhase at hphase
  unfold assign
  cases hassigned : r.isAssigned with
  | true => simp only [if_true]
  | false =>
    cases hlisted : r.isListed with
    | true => simp [hphase, hassigned, hlisted]
    | false => simp [hphase, hassigned, hlisted]

theorem eq_of_assign {r r' : Request κ} {core : κ} (hassign : r.assign core = .ok r') :
    r' = { r with isAssigned := true, core := some core, phase := .fulfilled } := by
  unfold assign at hassign
  split at hassign
  · exact absurd hassign (by simp)
  · split at hassign
    · exact absurd hassign (by simp)
    · exact (Except.ok.inj hassign).symm

theorem IsCoherent.core_of_assign {r r' : Request κ} {core : κ} (hr : r.IsCoherent)
    (hassign : r.assign core = .ok r') : r.core = none := by
  cases hcore : r.core with
  | none => rfl
  | some held =>
    have hassigned := hr.assigned_of_core (by simp [hcore])
    simp [assign, hassigned] at hassign

end Request

namespace RegistryChange

variable {κ : Type}

/-- The change assigns a core to the request `id`. -/
def assigns (id : Nat) : RegistryChange κ → Bool
  | .assigned n _ => n == id
  | _ => false

/-- The change disposes of the request `id`. -/
def disposes (id : Nat) : RegistryChange κ → Bool
  | .disposed n _ => n == id
  | _ => false

/-- The change assigns a core to the request `id`, takes its core or disposes of it. -/
def concerns (id : Nat) : RegistryChange κ → Bool
  | .assigned n _ | .taken n _ | .disposed n _ => n == id
  | _ => false

theorem assigns_of_not_concerns {id : Nat} {change : RegistryChange κ}
    (h : change.concerns id = false) : change.assigns id = false := by
  cases change <;> first | exact h | rfl

theorem disposes_of_not_concerns {id : Nat} {change : RegistryChange κ}
    (h : change.concerns id = false) : change.disposes id = false := by
  cases change <;> first | exact h | rfl

@[simp] theorem assigns_assigned (id n : Nat) (core : κ) :
    (assigned n core).assigns id = (n == id) := rfl

@[simp] theorem assigns_taken (id n : Nat) (core : κ) : (taken n core).assigns id = false := rfl

@[simp] theorem assigns_disposed (id n : Nat) (core : Option κ) :
    (disposed n core).assigns id = false := rfl

@[simp] theorem disposes_assigned (id n : Nat) (core : κ) :
    (assigned n core).disposes id = false := rfl

@[simp] theorem disposes_taken (id n : Nat) (core : κ) : (taken n core).disposes id = false := rfl

@[simp] theorem disposes_disposed (id n : Nat) (core : Option κ) :
    (disposed n core).disposes id = (n == id) := rfl

end RegistryChange

namespace Registry

variable {κ : Type}

/-- One change of a registry, made when it may be made. -/
inductive Becomes : Registry κ → RegistryChange κ → Registry κ → Prop
  | entered {g : Registry κ} {r : Request κ} (hnew : ∀ q ∈ g.requests, q.id ≠ r.id)
      (hfresh : r.IsFresh) : Becomes g (.entered r) (g.enter r)
  | assigned {g g' : Registry κ} {id : Nat} {core : κ} (hassign : g.assign id core = .ok g') :
      Becomes g (.assigned id core) g'
  | taken {g : Registry κ} {r : Request κ} {id : Nat} {core : κ} (hget : g.get? id = some r)
      (hcore : r.core = some core) : Becomes g (.taken id core) (g.empty id)
  | disposed {g : Registry κ} {r : Request κ} {id : Nat} (hget : g.get? id = some r) :
      Becomes g (.disposed id r.core) (g.dispose id)
  | reserved {g : Registry κ} {r : Request κ} (hmem : r ∈ g.requests)
      (hcandidate : r.isCandidate .all = true) : Becomes g (.reserved r.id) (g.reserve r.id)
  | unreserved {g : Registry κ} {id : Nat} : Becomes g (.unreserved id) (g.unreserve id)

/-- A registry and the changes that have made it, newest first. -/
inductive Course : List (RegistryChange κ) → Registry κ → Prop
  | start : Course [] {}
  | next {changes : List (RegistryChange κ)} {change : RegistryChange κ} {g g' : Registry κ}
      (hcourse : Course changes g) (hbecomes : g.Becomes change g') : Course (change :: changes) g'

/-! ## One request of a registry -/

theorem get?_eq_some {g : Registry κ} {id : Nat} {r : Request κ} (hget : g.get? id = some r) :
    r ∈ g.requests ∧ r.id = id :=
  ⟨List.mem_of_find?_eq_some hget, by simpa using List.find?_some hget⟩

/-- With one request to a number, a request is found by its number. -/
theorem get?_of_mem {g : Registry κ} (hids : (g.requests.map (·.id)).Nodup) {r : Request κ}
    (hmem : r ∈ g.requests) : g.get? r.id = some r := by
  unfold get?
  obtain ⟨q, hfind⟩ : ∃ q, g.requests.find? (·.id == r.id) = some q := by
    rw [← Option.isSome_iff_exists, List.find?_isSome]
    exact ⟨r, hmem, by simp⟩
  have hq : q.id = r.id := by simpa using List.find?_some hfind
  have heq : q = r :=
    List.inj_on_of_nodup_map hids (List.mem_of_find?_eq_some hfind) hmem hq
  rw [hfind, heq]

theorem mem_modify {g : Registry κ} {id : Nat} {f : Request κ → Request κ} {q : Request κ} :
    q ∈ (g.modify id f).requests ↔
      ∃ r ∈ g.requests, (if r.id == id then f r else r) = q := by
  simp only [modify, List.mem_map]

theorem assign_eq_ok {g g' : Registry κ} {id : Nat} {core : κ} (hassign : g.assign id core = .ok g') :
    ∃ r r', g.get? id = some r ∧ r.assign core = .ok r' ∧ g' = g.modify id fun _ => r' := by
  unfold assign at hassign
  cases hget : g.get? id with
  | none => simp [hget] at hassign
  | some r =>
    cases hr : r.assign core with
    | error reason => simp [hget, hr] at hassign
    | ok r' =>
      simp only [hget, hr, Except.ok.injEq] at hassign
      exact ⟨r, r', rfl, hr, hassign.symm⟩

/-! ## What the changes tell -/

/-- What the changes of its registry tell about a request. -/
structure RequestHistory [DecidableEq κ] (changes : List (RegistryChange κ)) (r : Request κ) : Prop where
  coherent : r.IsCoherent
  assigned : changes.countP (·.assigns r.id) = r.isAssigned.toNat
  listed : changes.any (·.disposes r.id) = !r.isListed
  /-- Whatever was put into the request was taken out, was disposed of, or is still there. -/
  slot : ∀ core, changes.count (.assigned r.id core) =
    changes.count (.taken r.id core) + changes.count (.disposed r.id (some core))
      + if r.core = some core then 1 else 0

/-- What the changes of a registry tell about it. -/
structure RegistryHistory [DecidableEq κ] (changes : List (RegistryChange κ)) (g : Registry κ) : Prop where
  ids : (g.requests.map (·.id)).Nodup
  requests : ∀ r ∈ g.requests, RequestHistory changes r
  /-- Nothing happened to a request that was never entered. -/
  unknown : ∀ id, (∀ r ∈ g.requests, r.id ≠ id) → ∀ change ∈ changes, change.concerns id = false

section RegistryHistory

variable [DecidableEq κ] {changes : List (RegistryChange κ)} {change : RegistryChange κ}
  {g g' : Registry κ}

/-- A change that does not concern a request tells nothing about it. -/
theorem RequestHistory.of_not_concerns {r : Request κ} (hhistory : RequestHistory changes r)
    (hchange : change.concerns r.id = false) : RequestHistory (change :: changes) r where
  coherent := hhistory.coherent
  assigned := by
    rw [List.countP_cons_of_neg, hhistory.assigned]
    simpa using RegistryChange.assigns_of_not_concerns hchange
  listed := by
    rw [List.any_cons, RegistryChange.disposes_of_not_concerns hchange, Bool.false_or,
      hhistory.listed]
  slot core := by
    have hne : ∀ other : RegistryChange κ, other.concerns r.id = true → change ≠ other := by
      intro other hother heq
      rw [← heq, hchange] at hother
      exact Bool.false_ne_true hother
    have hself : (r.id == r.id) = true := beq_self_eq_true r.id
    rw [List.count_cons_of_ne (hne (.assigned r.id core) hself),
      List.count_cons_of_ne (hne (.taken r.id core) hself),
      List.count_cons_of_ne (hne (.disposed r.id (some core)) hself), hhistory.slot]

/-- As long as a request has its core, that is the only one it ever got, and nobody took it. -/
theorem RequestHistory.not_taken {r : Request κ} (hhistory : RequestHistory changes r) {held : κ}
    (hheld : r.core = some held) (core : κ) : .taken r.id core ∉ changes := by
  intro htaken
  have honce : changes.countP (·.assigns r.id) ≤ 1 := hhistory.assigned ▸ Bool.toNat_le _
  have hpos := List.count_pos_iff.mpr htaken
  have hslot := hhistory.slot core
  have hheldSlot := hhistory.slot held
  rw [if_pos hheld] at hheldSlot
  obtain rfl : held = core := by
    have hassigned : .assigned r.id core ∈ changes := List.count_pos_iff.mp (by omega)
    have hheldAssigned : .assigned r.id held ∈ changes := List.count_pos_iff.mp (by omega)
    exact (RegistryChange.assigned.inj (eq_of_countP_le_one honce hheldAssigned (by simp) hassigned
      (by simp))).2
  have hle : changes.count (.assigned r.id held) ≤ changes.countP (·.assigns r.id) :=
    List.countP_mono_left fun change _ hsame => by simp [eq_of_beq hsame]
  omega

/-- A request that nothing happened to follows from changes that do not concern it. -/
theorem keepsObtainment_of_isFresh {r : Request κ} (hfresh : r.IsFresh)
    (hchanges : ∀ change ∈ changes, change.concerns r.id = false) : RequestHistory changes r := by
  induction changes with
  | nil =>
    refine ⟨hfresh.isCoherent, ?_, ?_, ?_⟩
    · simp [hfresh.isAssigned]
    · simp [hfresh.isListed]
    · intro core
      simp [hfresh.core]
  | cons change changes ih =>
    have htail : RequestHistory changes r := ih fun c hc => hchanges c (List.mem_cons_of_mem _ hc)
    exact htail.of_not_concerns (hchanges change List.mem_cons_self)

/-- Changing one request of a registry changes what is told about that request alone. -/
theorem RegistryHistory.modify (hrecord : RegistryHistory changes g) {id : Nat} {f : Request κ → Request κ}
    (hothers : ∀ n, n ≠ id → change.concerns n = false)
    (hself : ∀ r ∈ g.requests, r.id = id → (f r).id = id ∧ RequestHistory (change :: changes) (f r))
    (hknown : change.concerns id = true → ∃ r ∈ g.requests, r.id = id) :
    RegistryHistory (change :: changes) (g.modify id f) := by
  have hids : (g.modify id f).requests.map (·.id) = g.requests.map (·.id) := by
    simp only [Registry.modify, List.map_map]
    refine List.map_congr_left fun r hmem => ?_
    by_cases hid : r.id = id
    · simp [hid, (hself r hmem hid).1]
    · simp [hid]
  refine ⟨?_, ?_, ?_⟩
  · rw [hids]
    exact hrecord.ids
  · intro q hq
    obtain ⟨r, hmem, rfl⟩ := mem_modify.mp hq
    by_cases hid : r.id = id
    · simpa [hid] using (hself r hmem hid).2
    · simpa [hid] using (hrecord.requests r hmem).of_not_concerns (hothers r.id hid)
  · intro n hn c hc
    have hn' : ∀ r ∈ g.requests, r.id ≠ n := by
      intro r hmem hrn
      have hin : n ∈ (g.modify id f).requests.map (·.id) := by
        rw [hids]
        exact List.mem_map.mpr ⟨r, hmem, hrn⟩
      obtain ⟨q, hq, hqn⟩ := List.mem_map.mp hin
      exact hn q hq hqn
    rcases List.mem_cons.mp hc with rfl | hc
    · by_cases hnid : n = id
      · subst hnid
        cases hcon : c.concerns n with
        | false => rfl
        | true =>
          obtain ⟨r, hmem, hrn⟩ := hknown hcon
          exact absurd hrn (hn' r hmem)
      · exact hothers n hnid
    · exact hrecord.unknown n hn' c hc

/-- A request that was assigned a core follows from the changes with its assignment. -/
theorem RequestHistory.assign {r r' : Request κ} {core : κ} (hhistory : RequestHistory changes r)
    (hassign : r.assign core = .ok r') :
    r'.id = r.id ∧ RequestHistory (.assigned r.id core :: changes) r' := by
  have hempty := hhistory.coherent.core_of_assign hassign
  rw [hhistory.coherent.assign_eq] at hassign
  cases hassigned : r.isAssigned with
  | true => simp [hassigned] at hassign
  | false =>
    cases hlisted : r.isListed with
    | false => simp [hassigned, hlisted] at hassign
    | true =>
      simp only [hassigned, hlisted, Bool.false_eq_true, if_false, if_true,
        Except.ok.injEq] at hassign
      have hcount := hhistory.assigned
      have hany := hhistory.listed
      have hslot := hhistory.slot
      simp only [hassigned, hlisted, hempty] at hcount hany hslot
      subst hassign
      refine ⟨rfl, ⟨?_, ?_, ?_⟩, ?_, ?_, ?_⟩
      · simp [Request.impliedPhase]
      · simp
      · simp
      · simp [hcount]
      · simpa using hany
      · intro c
        have hc := hslot c
        by_cases hcc : core = c
        · subst hcc
          simp at hc ⊢
          omega
        · simp [hcc] at hc ⊢
          omega

/-- A request whose core was taken follows from the changes with the taking. -/
theorem RequestHistory.withoutCore {r : Request κ} {core : κ} (hhistory : RequestHistory changes r)
    (hcore : r.core = some core) : RequestHistory (.taken r.id core :: changes) r.withoutCore := by
  refine ⟨⟨hhistory.coherent.phase, ?_, ?_⟩, ?_, ?_, ?_⟩
  · simp [Request.withoutCore]
  · simp [Request.withoutCore]
  · simpa [Request.withoutCore] using hhistory.assigned
  · simpa [Request.withoutCore] using hhistory.listed
  · intro c
    have hc := hhistory.slot c
    by_cases hcc : core = c
    · subst hcc
      simp [hcore,
        Request.withoutCore] at hc ⊢
      omega
    · simp [hcore, hcc,
        Request.withoutCore] at hc ⊢
      omega

/-- A request that was disposed of follows from the changes with its disposal. -/
theorem RequestHistory.disposed {r : Request κ} (hhistory : RequestHistory changes r) :
    RequestHistory (.disposed r.id r.core :: changes) r.disposed := by
  refine ⟨⟨?_, ?_, ?_⟩, ?_, ?_, ?_⟩
  · have hphase := hhistory.coherent.phase
    simp only [Request.impliedPhase, Request.disposed] at hphase ⊢
    by_cases hassigned : r.isAssigned = true
    · simp [hphase, hassigned]
    · by_cases hlisted : r.isListed = true
      · simp [hphase, hassigned, hlisted]
      · simp [hphase, hassigned, hlisted]
  · simp [Request.disposed]
  · simp [Request.disposed]
  · simpa [Request.disposed] using hhistory.assigned
  · simp [Request.disposed]
  · intro c
    have hc := hhistory.slot c
    by_cases hcc : r.core = some c
    · simp [hcc,
        Request.disposed] at hc ⊢
      omega
    · simp [hcc,
        Request.disposed] at hc ⊢
      omega

/-- What may be done to a registry keeps it in line with its changes. -/
theorem RegistryHistory.next (hrecord : RegistryHistory changes g) (hbecomes : g.Becomes change g') :
    RegistryHistory (change :: changes) g' := by
  cases hbecomes with
  | @entered r hnew hfresh =>
    refine ⟨?_, ?_, ?_⟩
    · simp only [enter, List.map_append, List.map_cons, List.map_nil]
      rw [List.nodup_append]
      refine ⟨hrecord.ids, List.nodup_singleton _, ?_⟩
      intro a ha b hb
      obtain ⟨q, hq, rfl⟩ := List.mem_map.mp ha
      rw [List.mem_singleton.mp hb]
      exact hnew q hq
    · intro q hq
      rcases List.mem_append.mp hq with hq | hq
      · exact (hrecord.requests q hq).of_not_concerns rfl
      · rw [List.mem_singleton.mp hq]
        have hquiet := hrecord.unknown r.id hnew
        exact (keepsObtainment_of_isFresh hfresh hquiet).of_not_concerns rfl
    · intro n hn c hc
      rcases List.mem_cons.mp hc with rfl | hc
      · rfl
      · exact hrecord.unknown n (fun q hq => hn q (List.mem_append_left _ hq)) c hc
  | @assigned _ id core hassign =>
    obtain ⟨r, r', hget, hr, rfl⟩ := assign_eq_ok hassign
    obtain ⟨hmem, rfl⟩ := get?_eq_some hget
    refine hrecord.modify ?_ ?_ ?_
    · intro n hn
      simpa [RegistryChange.concerns] using fun h => hn h.symm
    · intro q hq hid
      have hqr : q = r := List.inj_on_of_nodup_map hrecord.ids hq hmem hid
      subst hqr
      exact (hrecord.requests q hq).assign hr
    · exact fun _ => ⟨r, hmem, rfl⟩
  | @taken r id core hget hcore =>
    obtain ⟨hmem, rfl⟩ := get?_eq_some hget
    refine hrecord.modify ?_ ?_ ?_
    · intro n hn
      simpa [RegistryChange.concerns] using fun h => hn h.symm
    · intro q hq hid
      have hqr : q = r := List.inj_on_of_nodup_map hrecord.ids hq hmem hid
      subst hqr
      exact ⟨rfl, (hrecord.requests q hq).withoutCore hcore⟩
    · exact fun _ => ⟨r, hmem, rfl⟩
  | @disposed r id hget =>
    obtain ⟨hmem, rfl⟩ := get?_eq_some hget
    refine hrecord.modify ?_ ?_ ?_
    · intro n hn
      simpa [RegistryChange.concerns] using fun h => hn h.symm
    · intro q hq hid
      have hqr : q = r := List.inj_on_of_nodup_map hrecord.ids hq hmem hid
      subst hqr
      exact ⟨rfl, (hrecord.requests q hq).disposed⟩
    · exact fun _ => ⟨r, hmem, rfl⟩
  | @reserved r hmem hcandidate =>
    refine hrecord.modify (fun _ _ => rfl) ?_ ?_
    · intro q hq hid
      have hhistory : RequestHistory (.reserved r.id :: changes) q :=
        (hrecord.requests q hq).of_not_concerns rfl
      exact ⟨hid, ⟨⟨hhistory.coherent.phase, hhistory.coherent.assigned_of_core,
        hhistory.coherent.listed_of_core⟩, hhistory.assigned, hhistory.listed, hhistory.slot⟩⟩
    · exact fun h => absurd h Bool.false_ne_true
  | @unreserved id =>
    refine hrecord.modify (fun _ _ => rfl) ?_ ?_
    · intro q hq hid
      have hhistory : RequestHistory (.unreserved id :: changes) q :=
        (hrecord.requests q hq).of_not_concerns rfl
      exact ⟨hid, ⟨⟨hhistory.coherent.phase, hhistory.coherent.assigned_of_core,
        hhistory.coherent.listed_of_core⟩, hhistory.assigned, hhistory.listed, hhistory.slot⟩⟩
    · exact fun h => absurd h Bool.false_ne_true

/-- A registry is always in line with its changes. -/
theorem Course.registryHistory (hcourse : Course changes g) : RegistryHistory changes g := by
  induction hcourse with
  | start => exact ⟨List.nodup_nil, fun r hr => absurd hr List.not_mem_nil, fun _ _ c hc =>
      absurd hc List.not_mem_nil⟩
  | next hcourse hbecomes ih => exact ih.next hbecomes

/-! ## Laws of a course -/

namespace Course

omit [DecidableEq κ] in
/-- Every request of a registry was entered. -/
theorem exists_entered (hcourse : Course changes g) {r : Request κ} (hmem : r ∈ g.requests) :
    ∃ q, .entered q ∈ changes ∧ q.id = r.id := by
  induction hcourse generalizing r with
  | start => exact absurd hmem List.not_mem_nil
  | @next changes change g g' hcourse hbecomes ih =>
    have hearlier : ∀ q ∈ g.requests, q.id = r.id →
        ∃ p, .entered p ∈ change :: changes ∧ p.id = r.id := by
      intro q hq hid
      obtain ⟨p, hp, hpid⟩ := ih hq
      exact ⟨p, List.mem_cons_of_mem _ hp, hpid.trans hid⟩
    have hmodified : ∀ (id : Nat) (f : Request κ → Request κ),
        (∀ q ∈ g.requests, q.id = id → (f q).id = q.id) → r ∈ (g.modify id f).requests →
        ∃ p, .entered p ∈ change :: changes ∧ p.id = r.id := by
      intro id f hf hr
      obtain ⟨q, hq, hqr⟩ := mem_modify.mp hr
      refine hearlier q hq ?_
      by_cases hid : q.id = id
      · rw [← hqr]
        simp [hid, hf q hq hid]
      · rw [← hqr]
        simp [hid]
    cases hbecomes with
    | entered _ _ =>
      rcases List.mem_append.mp hmem with hold | hnew
      · exact hearlier r hold rfl
      · exact ⟨r, List.mem_singleton.mp hnew ▸ List.mem_cons_self, rfl⟩
    | assigned hassign =>
      obtain ⟨q, q', hget, hq, rfl⟩ := assign_eq_ok hassign
      refine hmodified _ _ (fun p _ hp => ?_) hmem
      rw [Request.eq_of_assign hq]
      exact (get?_eq_some hget).2.trans hp.symm
    | taken _ _ => exact hmodified _ (·.withoutCore) (fun _ _ _ => rfl) hmem
    | disposed _ => exact hmodified _ (·.disposed) (fun _ _ _ => rfl) hmem
    | reserved _ _ =>
      exact hmodified _ (fun q => { q with isReserved := true }) (fun _ _ _ => rfl) hmem
    | unreserved =>
      exact hmodified _ (fun q => { q with isReserved := false }) (fun _ _ _ => rfl) hmem

/-- A request is assigned at most one core, ever. -/
theorem assigned_once (hcourse : Course changes g) (id : Nat) :
    changes.countP (·.assigns id) ≤ 1 := by
  have hrecord := hcourse.registryHistory
  by_cases hknown : ∃ r ∈ g.requests, r.id = id
  · obtain ⟨r, hmem, rfl⟩ := hknown
    rw [(hrecord.requests r hmem).assigned]
    exact Bool.toNat_le _
  · have hnone : ∀ change ∈ changes, ¬ (change.assigns id = true) := by
      intro change hchange
      have hquiet := hrecord.unknown id (fun r hr hid => hknown ⟨r, hr, hid⟩) change hchange
      simp [RegistryChange.assigns_of_not_concerns hquiet]
    rw [List.countP_eq_zero.mpr hnone]
    exact Nat.zero_le 1

/-- Nothing is assigned to a request that was disposed of. -/
theorem not_assigned_after_disposal {later earlier : List (RegistryChange κ)} {id : Nat}
    {core : Option κ} (hcourse : Course (later ++ .disposed id core :: earlier) g) :
    later.countP (·.assigns id) = 0 := by
  induction later generalizing g with
  | nil => rfl
  | cons change later ih =>
    cases hcourse with
    | @next _ _ g₀ _ hcourse hbecomes =>
      have hlater := ih hcourse
      rw [List.countP_cons_of_neg, hlater]
      intro hassigns
      cases hbecomes with
      | @assigned _ n core' hassign =>
        obtain ⟨r, r', hget, hr, -⟩ := assign_eq_ok hassign
        obtain ⟨hmem, rfl⟩ := get?_eq_some hget
        have hid : r.id = id := by simpa using hassigns
        have hhistory := hcourse.registryHistory.requests r hmem
        have hunlisted : r.isListed = false := by
          have hany := hhistory.listed
          simpa [hid] using hany
        rw [hhistory.coherent.assign_eq] at hr
        by_cases hassigned : r.isAssigned = true
        · simp [hassigned] at hr
        · simp [hassigned, hunlisted] at hr
      | entered _ _ => exact Bool.false_ne_true hassigns
      | taken _ _ => exact Bool.false_ne_true hassigns
      | disposed _ => exact Bool.false_ne_true hassigns
      | reserved _ _ => exact Bool.false_ne_true hassigns
      | unreserved => exact Bool.false_ne_true hassigns

/-- The slot of a request that was disposed of is empty. -/
theorem slot_empty_after_disposal (hcourse : Course changes g) {r : Request κ}
    (hmem : r ∈ g.requests) {core : Option κ} (hdisposed : .disposed r.id core ∈ changes) :
    r.core = none := by
  have hhistory := hcourse.registryHistory.requests r hmem
  have hany : changes.any (·.disposes r.id) = true :=
    List.any_eq_true.mpr ⟨_, hdisposed, by simp⟩
  rw [hhistory.listed] at hany
  cases hcore : r.core with
  | none => rfl
  | some c =>
    have hlisted := hhistory.coherent.listed_of_core (by simp [hcore])
    rw [hlisted] at hany
    exact absurd hany Bool.false_ne_true

end Course

end RegistryHistory

end Registry

end CoreBroker
