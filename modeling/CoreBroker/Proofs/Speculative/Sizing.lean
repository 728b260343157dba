import CoreBroker.Proofs.Speculative.Rebalancing
set_option autoImplicit false

/-!
# How many providers are engaged

A pass brings the number of engaged providers to what the demand calls for, or to as many as there are:
it starts attempts on idle providers or gives engaged ones up, each of them once.  Before that it brings
the tracked providers in line with the roster.
-/

namespace CoreBroker

namespace States

variable {κ : Type} {states : States κ}

/-! ## In line with the roster -/

/-- Once they are in line with the roster, the tracked providers are its members. -/
theorem providers_sync_perm (hids : states.ids.Nodup) {current : List ProviderRef}
    (hcurrent : (current.map (·.id)).Nodup)
    (hserials : ∀ o ∈ states, ∀ p ∈ current, o.provider.serial = p.serial → o.provider = p) :
    (states.sync current).providers.Perm current := by
  have hmember : ∀ o ∈ states.remaining current, o.provider ∈ current := by
    intro o ho
    obtain ⟨hmem, hregistered⟩ := List.mem_filter.mp ho
    obtain ⟨p, hp, hserial⟩ := List.any_eq_true.mp hregistered
    rw [hserials o hmem p hp (by simpa [Obtainment.belongsTo] using hserial)]
    exact hp
  have hnodup : (states.sync current).providers.Nodup := by
    have hsynced := ids_sync_nodup hids hcurrent
    rw [ids_eq_providers] at hsynced
    exact hsynced.of_map _
  refine (List.perm_ext_iff_of_nodup hnodup (hcurrent.of_map _)).mpr fun p => ?_
  simp only [providers, sync, List.map_append, List.map_map, List.mem_append, List.mem_map]
  constructor
  · rintro (⟨o, ho, rfl⟩ | ⟨q, hq, rfl⟩)
    · exact hmember o ho
    · exact (List.mem_filter.mp hq).1
  · intro hp
    cases hfound : (states.remaining current).get? p.id with
    | none => exact .inr ⟨p, List.mem_filter.mpr ⟨hp, by rw [hfound]; rfl⟩, rfl⟩
    | some o =>
      obtain ⟨ho, hid⟩ := get?_eq_some hfound
      exact .inl ⟨o, ho, List.inj_on_of_nodup_map hcurrent (hmember o ho) hp hid⟩

theorem provider_of_sync {current : List ProviderRef} {o : Obtainment κ}
    (ho : o ∈ states.sync current) : o ∈ states ∨ o.provider ∈ current := by
  rcases List.mem_append.mp ho with ho | ho
  · exact .inl (List.mem_filter.mp ho).1
  · obtain ⟨p, hp, rfl⟩ := List.mem_map.mp ho
    exact .inr (List.mem_filter.mp hp).1

/-! ## Held cores -/

theorem takeCore?_of_hasCore (hids : states.ids.Nodup) {o : Obtainment κ} (ho : o ∈ states)
    (hcore : o.hasCore = true) :
    ∃ core states', states.takeCore? o.provider.id = some (core, states') := by
  unfold Obtainment.hasCore at hcore
  split at hcore
  · rename_i core hphase
    refine ⟨core, states.modify o.provider.id fun _ => { o with phase := .idle }, ?_⟩
    simp only [takeCore?, get?_of_mem hids ho, Option.bind_some, Obtainment.take?, hphase]
  · exact absurd hcore Bool.false_ne_true

/-- Whoever holds a core after one was taken out held it before, and it is not the one. -/
theorem of_mem_takeCore? {id : String} {core : κ} {states' : States κ}
    (htake : states.takeCore? id = some (core, states')) {o : Obtainment κ} (ho : o ∈ states')
    (hcore : o.hasCore = true) : o ∈ states ∧ o.provider.id ≠ id := by
  unfold takeCore? at htake
  split at htake
  · rename_i taken hbind
    obtain ⟨q, -, htaken⟩ := Option.bind_eq_some_iff.mp hbind
    obtain ⟨-, rfl⟩ := Obtainment.of_take? htaken
    cases htake
    obtain ⟨p, hp, rfl⟩ := List.mem_map.mp ho
    by_cases hid : p.provider.id = id
    · rw [if_pos (by simpa using hid)] at hcore
      exact absurd hcore Bool.false_ne_true
    · rw [if_neg (by simpa using hid)]
      exact ⟨hp, hid⟩
  · exact absurd htake (by simp)

end States

namespace Speculative

variable {f : Speculative}

/-- As many providers are engaged as `n` waiting requests call for, or all there are, and none of them
holds a core. -/
structure IsSized (f : Speculative) (n : Nat) : Prop where
  engaged : f.states.countP (·.isEngaged) =
    min (States.target n f.settings.slack.toNat) f.states.length
  coreless : f.states.countP (·.hasCore) = 0

/-- Where nothing waits, nobody is engaged, so nobody holds a core either. -/
theorem IsSized.of_engaged {n : Nat} (hengaged : f.states.countP (·.isEngaged) =
      min (States.target n f.settings.slack.toNat) f.states.length)
    (hcoreless : n ≠ 0 → f.states.countP (·.hasCore) = 0) : f.IsSized n := by
  refine ⟨hengaged, ?_⟩
  by_cases hnone : n = 0
  · have hle : f.states.countP (·.hasCore) ≤ f.states.countP (·.isEngaged) :=
      List.countP_mono_left fun o _ hcore => Obtainment.isEngaged_of_hasCore hcore
    have htarget : States.target n f.settings.slack.toNat = 0 := by
      rw [States.target, if_pos hnone]
    omega
  · exact hcoreless hnone

/-! ## The end of a pass -/

/-- A pass ends with as many providers engaged as there should be for what is left to serve, provided no
core is left where something is. -/
theorem resize_isSized (chance : Chance) (hids : f.states.ids.Nodup) (me : Nat) (discarded : List Core)
    (matched : Matched) (hcoreless : matched.pending ≠ 0 →
      (f.putBack matched.leftovers).states.countP (·.hasCore) = 0) :
    (f.resize chance me discarded matched).1.IsSized matched.pending := by
  have hlength : (f.resize chance me discarded matched).1.states.length =
      (f.putBack matched.leftovers).states.length := by
    have hsame := congrArg List.length (resize_rebalanceStep chance me discarded matched hids).providers
    simpa only [States.providers, List.length_map] using hsame
  have hsettings : (f.resize chance me discarded matched).1.settings = f.settings := by
    rw [resize_same chance me discarded matched hids]
  obtain ⟨hengaged, hcores⟩ := rebalance_engaged chance (putBack_ids hids matched.leftovers) me
    (matched.scene.leave f.board) matched.pending
    (discarded ++ (f.states.restoreCores matched.leftovers).2)
  refine IsSized.of_engaged ?_ fun hleft => Nat.le_zero.mp (hcoreless hleft ▸ hcores)
  rw [hlength, hsettings]
  exact hengaged

end Speculative

end CoreBroker
