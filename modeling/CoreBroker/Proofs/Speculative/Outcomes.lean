import CoreBroker.Proofs.Speculative.LoopSteps
set_option autoImplicit false

/-!
# Which providers are asked

A provider is asked from the start of an attempt until its outcome is taken in, or until it is given up or
departs.  An outcome is taken in for the very provider object and the very number that are asked; for any
other it changes nothing.
-/

namespace CoreBroker

namespace Obtainment

variable {κ : Type}

/-- The provider that is asked and the number of the attempt that asks it. -/
def asked? (o : Obtainment κ) : Option (ProviderRef × Nat) :=
  match o.phase with
  | .obtaining attempt _ => some (o.provider, attempt)
  | _ => none

theorem asked?_of_not_isObtaining {o : Obtainment κ} (hnot : o.isObtaining = false) :
    o.asked? = none := by
  unfold asked?
  cases hphase : o.phase with
  | obtaining attempt token => simp [isObtaining, hphase] at hnot
  | _ => rfl

theorem of_asked? {o : Obtainment κ} {x : ProviderRef × Nat} (hasked : o.asked? = some x) :
    o.provider = x.1 ∧ o.isCurrent x.2 = true := by
  unfold asked? at hasked
  split at hasked
  · rename_i hphase
    cases hasked
    simp [isCurrent, hphase]
  · exact absurd hasked (by simp)

end Obtainment

namespace States

variable {κ : Type} {states states' : States κ} {id : String} {x : ProviderRef × Nat}

/-- The providers that are asked, each with the number of the attempt in flight. -/
def asked (states : States κ) : List (ProviderRef × Nat) := states.filterMap (·.asked?)

theorem mem_asked : x ∈ states.asked ↔ ∃ o ∈ states, o.asked? = some x := List.mem_filterMap

/-- Changing an obtainment changes only whether and how its provider is asked. -/
theorem mem_asked_modify {f : Obtainment κ → Obtainment κ} (hx : x ∈ (states.modify id f).asked) :
    (x ∈ states.asked ∧ x.1.id ≠ id) ∨
      ∃ o ∈ states, o.provider.id = id ∧ (f o).asked? = some x := by
  obtain ⟨o, ho, hasked⟩ := mem_asked.mp hx
  obtain ⟨q, hq, rfl⟩ := List.mem_map.mp ho
  by_cases hid : q.provider.id = id
  · rw [if_pos (by simpa using hid)] at hasked
    exact .inr ⟨q, hq, hid, hasked⟩
  · rw [if_neg (by simpa using hid)] at hasked
    refine .inl ⟨mem_asked.mpr ⟨q, hq, hasked⟩, ?_⟩
    rw [← (Obtainment.of_asked? hasked).1]
    exact hid

/-- An obtainment that does not ask afterwards is one less, if anything. -/
theorem mem_asked_modify_of_not {f : Obtainment κ → Obtainment κ}
    (hf : ∀ o ∈ states, o.provider.id = id → (f o).isObtaining = false)
    (hx : x ∈ (states.modify id f).asked) : x ∈ states.asked ∧ x.1.id ≠ id := by
  rcases mem_asked_modify hx with hold | ⟨o, ho, hid, hasked⟩
  · exact hold
  · rw [Obtainment.asked?_of_not_isObtaining (hf o ho hid)] at hasked
    exact absurd hasked (by simp)

theorem asked_sync_subset (states : States κ) (current : List ProviderRef) :
    (states.sync current).asked ⊆ states.asked := by
  intro x hx
  obtain ⟨o, ho, hasked⟩ := mem_asked.mp hx
  rcases List.mem_append.mp ho with ho | ho
  · exact mem_asked.mpr ⟨o, (List.mem_filter.mp ho).1, hasked⟩
  · obtain ⟨p, -, rfl⟩ := List.mem_map.mp ho
    exact absurd hasked (by simp [Obtainment.asked?, Obtainment.new])

theorem asked_takeCore?_subset {core : κ} (htake : states.takeCore? id = some (core, states')) :
    states'.asked ⊆ states.asked := by
  unfold takeCore? at htake
  split at htake
  · rename_i hbind
    obtain ⟨o, -, htaken⟩ := Option.bind_eq_some_iff.mp hbind
    obtain ⟨-, rfl⟩ := Obtainment.of_take? htaken
    cases htake
    exact fun x hx => (mem_asked_modify_of_not (fun _ _ _ => rfl) hx).1
  · exact absurd htake (by simp)

theorem asked_restoreCore?_subset {core : κ} (hrestore : states.restoreCore? id core = some states') :
    states'.asked ⊆ states.asked := by
  obtain ⟨o', hback, rfl⟩ := Option.map_eq_some_iff.mp hrestore
  obtain ⟨o, -, hrestored⟩ := Option.bind_eq_some_iff.mp hback
  obtain ⟨-, rfl⟩ := Obtainment.of_restore? hrestored
  exact fun x hx => (mem_asked_modify_of_not (fun _ _ _ => rfl) hx).1

theorem asked_restoreCores_subset : ∀ (ready : List (String × κ)) (states : States κ),
    (states.restoreCores ready).1.asked ⊆ states.asked := by
  intro ready
  induction ready with
  | nil => exact fun _ => List.Subset.refl _
  | cons entry rest ih =>
    obtain ⟨id, core⟩ := entry
    intro states
    unfold restoreCores
    cases hrestore : states.restoreCore? id core with
    | none => exact ih states
    | some states' => exact List.Subset.trans (ih states') (asked_restoreCore?_subset hrestore)

/-! ## Outcomes -/

theorem own?_of_mem (hids : states.ids.Nodup) {o : Obtainment κ} (ho : o ∈ states) :
    states.own? o.provider = some o :=
  Option.filter_eq_some_iff.mpr ⟨get?_of_mem hids ho, by simp [Obtainment.belongsTo]⟩

/-- The outcome of the attempt `number` on the provider `p` has come in.  If this very object is asked
with this number, it is not asked any more; otherwise nothing has changed. -/
inductive TakesOutcome (p : ProviderRef) (number : Nat) (states : States κ) : States κ → Prop
  | current {o o' : Obtainment κ} (hown : states.own? p = some o)
      (hcurrent : o.isCurrent number = true) (hprovider : o'.provider = o.provider)
      (hafter : o'.isObtaining = false) : TakesOutcome p number states (states.modify p.id fun _ => o')
  | stale (hstale : ∀ o, states.own? p = some o → o.isCurrent number = false) :
      TakesOutcome p number states states

/-- After the outcome of an attempt has come in, what is asked was asked before, and not by this
attempt. -/
theorem TakesOutcome.of_mem_asked {p : ProviderRef} {number : Nat} (hids : states.ids.Nodup)
    (htakes : TakesOutcome p number states states') (hx : x ∈ states'.asked) :
    x ∈ states.asked ∧ x ≠ (p, number) := by
  cases htakes with
  | current hown hcurrent hprovider hafter =>
    obtain ⟨hasked, hne⟩ := mem_asked_modify_of_not (fun _ _ _ => hafter) hx
    exact ⟨hasked, fun hthis => hne (by rw [hthis])⟩
  | stale hstale =>
    refine ⟨hx, ?_⟩
    rintro rfl
    obtain ⟨o, ho, hasked⟩ := mem_asked.mp hx
    obtain ⟨hprovider, hcurrent⟩ := Obtainment.of_asked? hasked
    have hown := own?_of_mem hids ho
    rw [hprovider] at hown
    have hnot := hstale o hown
    exact absurd (hnot.symm.trans hcurrent) Bool.false_ne_true

end States

namespace Speculative

variable {f : Speculative}

/-- An attempt that reports ends what it is asking. -/
theorem applyOutcome_takesOutcome (states : States Core) (a : Attempt) (core : Option Core) :
    states.TakesOutcome a.provider a.number (applyOutcome states a core).1 := by
  rcases current_or_stale states a with ⟨o, hown, hcurrent⟩ | hstale
  · rw [applyOutcome_of_current hown hcurrent]
    refine .current hown hcurrent rfl ?_
    cases core <;> rfl
  · rw [applyOutcome_of_stale hstale]
    exact .stale hstale

/-- A panic that is recorded ends what its attempt was asking. -/
theorem recordPanic_takesOutcome (f : Speculative) (owner : Owner) (s : Scene) :
    f.states.TakesOutcome owner.provider owner.number (f.recordPanic owner s).1.states := by
  unfold recordPanic
  cases hfail : (f.states.own? owner.provider).bind (·.fail? owner.number) with
  | some o' =>
    obtain ⟨o, hown, hfailed⟩ := Option.bind_eq_some_iff.mp hfail
    obtain ⟨hcurrent, rfl⟩ := Obtainment.of_fail? hfailed
    exact .current hown hcurrent rfl rfl
  | none =>
    refine .stale fun o hown => ?_
    rw [hown, Option.bind_some] at hfail
    unfold Obtainment.fail? at hfail
    split at hfail
    · exact absurd hfail (by simp)
    · rename_i hnot
      exact Bool.eq_false_iff.mpr hnot

end Speculative

end CoreBroker
