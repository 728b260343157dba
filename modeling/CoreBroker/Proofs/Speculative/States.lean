import CoreBroker.Proofs.Lists
import CoreBroker.Speculative.States
set_option autoImplicit false

/-!
# The obtainments as a whole

With one obtainment to a provider id, a change of one obtainment changes one entry of every count.  From
this follows what the changes of a pass do to the cores that are held and to the number of providers
that are engaged.
-/

namespace CoreBroker

namespace Obtainment

variable {κ : Type} [DecidableEq κ]

/-- The obtainment holds this core. -/
def holds (core : κ) (o : Obtainment κ) : Bool := o.heldCore? == some core

theorem holds_of_idle {o : Obtainment κ} (hphase : o.phase = .idle) (core : κ) :
    o.holds core = false := by
  simp [holds, heldCore?, hphase]

theorem holds_of_holding {o : Obtainment κ} {held : κ} (hphase : o.phase = .holding held)
    (core : κ) : o.holds core = decide (held = core) := by
  simp only [holds, heldCore?, hphase]
  by_cases hcore : held = core
  · simp [hcore]
  · simp [hcore]

theorem count_heldCore (o : Obtainment κ) (core : κ) :
    o.heldCore?.toList.count core = (o.holds core).toNat := by
  unfold holds
  cases o.heldCore? with
  | none => simp
  | some held =>
    by_cases hcore : held = core
    · simp [hcore]
    · simp [hcore, beq_false_of_ne hcore]

theorem holds_of_isIdle {o : Obtainment κ} (hidle : o.isIdle = true) (core : κ) :
    o.holds core = false := by
  unfold isIdle at hidle
  split at hidle
  · rename_i hphase
    exact holds_of_idle hphase core
  · exact absurd hidle Bool.false_ne_true

omit [DecidableEq κ] in
theorem isIdle_of_start? {o o' : Obtainment κ} {token : Token} {number : Nat}
    (hstart : o.start? token = some (number, o')) :
    o.isIdle = true ∧ o'.provider = o.provider ∧ o'.isObtaining = true := by
  unfold start? at hstart
  split at hstart
  · rename_i hphase
    cases hstart
    exact ⟨by simp [isIdle, hphase], rfl, rfl⟩
  · exact absurd hstart (by simp)

omit [DecidableEq κ] in
theorem of_take? {o o' : Obtainment κ} {core : κ} (htake : o.take? = some (core, o')) :
    o.phase = .holding core ∧ o' = { o with phase := .idle } := by
  unfold take? at htake
  split at htake
  · rename_i held hphase
    cases htake
    exact ⟨hphase, rfl⟩
  · exact absurd htake (by simp)

omit [DecidableEq κ] in
theorem of_restore? {o o' : Obtainment κ} {core : κ} (hrestore : o.restore? core = some o') :
    o.phase = .idle ∧ o' = { o with phase := .holding core } := by
  unfold restore? at hrestore
  split at hrestore
  · rename_i hphase
    cases hrestore
    exact ⟨hphase, rfl⟩
  · exact absurd hrestore (by simp)

omit [DecidableEq κ] in
theorem of_fail? {o o' : Obtainment κ} {attempt : Nat} (hfail : o.fail? attempt = some o') :
    o.isCurrent attempt = true ∧ o' = { o with phase := .idle } := by
  unfold fail? at hfail
  split at hfail
  · rename_i hcurrent
    cases hfail
    exact ⟨hcurrent, rfl⟩
  · exact absurd hfail (by simp)

omit [DecidableEq κ] in
/-- While an attempt is in flight nothing else is going on. -/
theorem isObtaining_of_isCurrent {o : Obtainment κ} {attempt : Nat}
    (hcurrent : o.isCurrent attempt = true) : o.isObtaining = true := by
  unfold isCurrent at hcurrent
  unfold isObtaining
  split at hcurrent
  · simp
  · exact absurd hcurrent Bool.false_ne_true

/-- An obtainment is idle, obtaining or holding, and one of them only. -/
theorem holds_of_isObtaining {o : Obtainment κ} (hobtaining : o.isObtaining = true) (core : κ) :
    o.holds core = false := by
  unfold isObtaining at hobtaining
  split at hobtaining
  · rename_i hphase
    simp [holds, heldCore?, hphase]
  · exact absurd hobtaining Bool.false_ne_true

omit [DecidableEq κ] in
theorem not_isEngaged_of_isIdle {o : Obtainment κ} (hidle : o.isIdle = true) :
    o.isEngaged = false ∧ o.hasCore = false := by
  unfold isIdle at hidle
  split at hidle
  · rename_i hphase
    simp [isEngaged, isIdle, hasCore, hphase]
  · exact absurd hidle Bool.false_ne_true

omit [DecidableEq κ] in
theorem isEngaged_of_hasCore {o : Obtainment κ} (hcore : o.hasCore = true) : o.isEngaged = true := by
  unfold hasCore at hcore
  split at hcore
  · rename_i hphase
    simp [isEngaged, isIdle, hphase]
  · exact absurd hcore Bool.false_ne_true

omit [DecidableEq κ] in
theorem isObtaining_of_not_hasCore {o : Obtainment κ} (hcore : o.hasCore = false) :
    o.isObtaining = o.isEngaged := by
  unfold hasCore at hcore
  unfold isObtaining isEngaged isIdle
  cases hphase : o.phase with
  | idle => rfl
  | obtaining attempt token => rfl
  | holding core => simp [hphase] at hcore

end Obtainment

namespace States

variable {κ : Type} {states : States κ} {id : String}

/-- The ids of the tracked providers. -/
def ids (states : States κ) : List String := states.map (·.provider.id)

/-- The tracked provider objects. -/
def providers (states : States κ) : List ProviderRef := states.map (·.provider)

theorem get?_eq_some {o : Obtainment κ} (hget : states.get? id = some o) :
    o ∈ states ∧ o.provider.id = id :=
  ⟨List.mem_of_find?_eq_some hget, by simpa using List.find?_some hget⟩

theorem get?_of_mem (hids : states.ids.Nodup) {o : Obtainment κ} (ho : o ∈ states) :
    states.get? o.provider.id = some o :=
  find?_key hids ho

theorem of_own? {p : ProviderRef} {o : Obtainment κ} (hown : states.own? p = some o) :
    states.get? p.id = some o ∧ o.belongsTo p = true :=
  Option.filter_eq_some_iff.mp hown

theorem providers_modify {f : Obtainment κ → Obtainment κ}
    (hf : ∀ o ∈ states, o.provider.id = id → (f o).provider = o.provider) :
    (states.modify id f).providers = states.providers := by
  simp only [providers, modify, List.map_map]
  refine List.map_congr_left fun o ho => ?_
  by_cases hid : o.provider.id = id
  · simp [hid, hf o ho hid]
  · simp [hid]

theorem ids_eq_providers (states : States κ) : states.ids = states.providers.map (·.id) := by
  simp only [ids, providers, List.map_map]
  rfl

/-- Changing an obtainment changes its share in a count. -/
theorem countP_modify (hids : states.ids.Nodup) {o : Obtainment κ}
    (hget : states.get? id = some o) (f : Obtainment κ → Obtainment κ) (p : Obtainment κ → Bool) :
    (states.modify id f).countP p + (p o).toNat = states.countP p + (p (f o)).toNat := by
  obtain ⟨ho, hid⟩ := get?_eq_some hget
  exact countP_replace hids ho hid f p

theorem providers_replace (hids : states.ids.Nodup) {o o' : Obtainment κ}
    (hget : states.get? id = some o) (hprovider : o'.provider = o.provider) :
    (states.modify id fun _ => o').providers = states.providers := by
  refine providers_modify fun q hq hid => ?_
  obtain ⟨ho, hoid⟩ := get?_eq_some hget
  have hqo : q = o := List.inj_on_of_nodup_map hids hq ho (hid.trans hoid.symm)
  rw [hqo, hprovider]

/-! ## Cores -/

section Cores

variable [DecidableEq κ]

theorem count_heldCores (states : States κ) (core : κ) :
    (states.filterMap (·.heldCore?)).count core = states.countP (·.holds core) := by
  induction states with
  | nil => rfl
  | cons o states ih =>
    rw [List.filterMap_cons, List.countP_cons]
    cases hheld : o.heldCore? with
    | none => simp [ih, Obtainment.holds, hheld]
    | some held => simp [List.count_cons, ih, Obtainment.holds, hheld]

/-- The cores of departed providers are all that bringing the obtainments in line takes away. -/
theorem countP_sync (states : States κ) (current : List ProviderRef) (core : κ) :
    (states.sync current).countP (·.holds core) +
        ((states.departed current).filterMap (·.heldCore?)).count core =
      states.countP (·.holds core) := by
  have hfresh : ((states.arrived current).map Obtainment.new).countP
      (fun o : Obtainment κ => o.holds core) = 0 := by
    rw [List.countP_eq_zero]
    intro o ho
    obtain ⟨p, -, rfl⟩ := List.mem_map.mp ho
    simp [Obtainment.new, Obtainment.holds, Obtainment.heldCore?]
  rw [count_heldCores, sync, List.countP_append, hfresh, Nat.add_zero]
  simp only [remaining, departed]
  exact (List.countP_eq_countP_filter_add states _ (isRegistered current)).symm

theorem of_takeCore? (hids : states.ids.Nodup) {states' : States κ} {core : κ}
    (htake : states.takeCore? id = some (core, states')) :
    states'.providers = states.providers ∧
      ∀ c, states'.countP (·.holds c) + (decide (core = c)).toNat =
        states.countP (·.holds c) := by
  unfold takeCore? at htake
  cases hget : states.get? id with
  | none => simp [hget] at htake
  | some o =>
    cases hheld : o.take? with
    | none => simp [hget, hheld] at htake
    | some taken =>
      obtain ⟨held, o'⟩ := taken
      simp only [hget, hheld, Option.bind_some, Option.some.injEq, Prod.mk.injEq] at htake
      obtain ⟨rfl, rfl⟩ := htake
      obtain ⟨hphase, rfl⟩ := Obtainment.of_take? hheld
      refine ⟨providers_replace hids hget rfl, fun c => ?_⟩
      have hcount := countP_modify hids hget (fun _ => { o with phase := .idle }) (·.holds c)
      rw [Obtainment.holds_of_holding hphase, Obtainment.holds_of_idle rfl] at hcount
      exact hcount

theorem of_restoreCore? (hids : states.ids.Nodup) {states' : States κ} {core : κ}
    (hrestore : states.restoreCore? id core = some states') :
    states'.providers = states.providers ∧
      ∀ c, states'.countP (·.holds c) = states.countP (·.holds c) + (decide (core = c)).toNat := by
  unfold restoreCore? at hrestore
  cases hget : states.get? id with
  | none => simp [hget] at hrestore
  | some o =>
    cases hback : o.restore? core with
    | none => simp [hget, hback] at hrestore
    | some o' =>
      simp only [hget, hback, Option.bind_some, Option.map_some, Option.some.injEq] at hrestore
      obtain ⟨hphase, rfl⟩ := Obtainment.of_restore? hback
      subst hrestore
      refine ⟨providers_replace hids hget rfl, fun c => ?_⟩
      have hcount := countP_modify hids hget (fun _ => { o with phase := .holding core }) (·.holds c)
      rw [Obtainment.holds_of_idle hphase, Obtainment.holds_of_holding rfl] at hcount
      exact hcount

/-- Putting cores back: what is not back is returned. -/
theorem of_restoreCores : ∀ (ready : List (String × κ)) {states : States κ}, states.ids.Nodup →
    (states.restoreCores ready).1.providers = states.providers ∧
      ∀ c, (states.restoreCores ready).1.countP (·.holds c) + (states.restoreCores ready).2.count c =
        states.countP (·.holds c) + (ready.map (·.2)).count c := by
  intro ready
  induction ready with
  | nil => exact fun _ => ⟨rfl, fun _ => rfl⟩
  | cons entry ready ih =>
    obtain ⟨id, core⟩ := entry
    intro states hids
    unfold restoreCores
    cases hrestore : states.restoreCore? id core with
    | none =>
      obtain ⟨hproviders, hcounts⟩ := ih hids
      refine ⟨hproviders, fun c => ?_⟩
      have hc := hcounts c
      simp only [List.map_cons, List.count_cons] at hc ⊢
      omega
    | some states' =>
      obtain ⟨hproviders', hcounts'⟩ := of_restoreCore? hids hrestore
      have hids' : states'.ids.Nodup := by
        rw [ids_eq_providers, hproviders', ← ids_eq_providers]
        exact hids
      obtain ⟨hproviders, hcounts⟩ := ih hids'
      refine ⟨hproviders.trans hproviders', fun c => ?_⟩
      have hc := hcounts c
      have hc' := hcounts' c
      simp only [List.map_cons, count_cons_toNat]
      omega

end Cores

/-! ## Providers -/

theorem ids_sync_nodup (hids : states.ids.Nodup) {current : List ProviderRef}
    (hcurrent : (current.map (·.id)).Nodup) : (states.sync current).ids.Nodup := by
  have hnew : ((states.arrived current).map (Obtainment.new (κ := κ))).map (·.provider.id) =
      (states.arrived current).map (·.id) := by
    simp only [List.map_map]
    rfl
  simp only [ids, sync, List.map_append, hnew]
  rw [List.nodup_append]
  refine ⟨hids.sublist (List.filter_sublist.map _),
    hcurrent.sublist (List.filter_sublist.map _), ?_⟩
  intro a ha b hb hab
  obtain ⟨o, ho, rfl⟩ := List.mem_map.mp ha
  obtain ⟨p, hp, rfl⟩ := List.mem_map.mp hb
  have hnone := (List.mem_filter.mp hp).2
  have hfound : ((states.remaining current).get? p.id).isSome := by
    rw [States.get?, List.find?_isSome]
    exact ⟨o, ho, by simpa using hab⟩
  rw [Option.isNone_iff_eq_none.mp hnone] at hfound
  exact absurd hfound (by simp)

end States

end CoreBroker
