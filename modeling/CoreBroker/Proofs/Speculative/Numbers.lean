import CoreBroker.Proofs.Speculative.Oversight
import Mathlib.Data.List.Perm.Subperm
set_option autoImplicit false

/-!
# How the attempts on a provider are told apart

While a provider stays tracked its attempts are numbered consecutively, so no two of them that may still
report have the same number.  An outcome is taken in by number, and an obtainment is given up only when its
attempt is cancelled.  So an attempt that was not cancelled is the one that its provider is engaged by, and
there is at most one such attempt on a provider.
-/

namespace CoreBroker

/-- What has not been fired later had not been fired before. -/
theorem Scene.Precedes.not_isCancelled {s s' : Scene} (h : s.Precedes s') {t : Token}
    (hwanted : s'.isCancelled t = false) : s.isCancelled t = false :=
  Bool.eq_false_iff.mpr fun hcancelled => Bool.eq_false_iff.mp hwanted (h.isCancelled hcancelled)

/-- Whose panic the loop is about to record. -/
def SpeculativePoint.recorded : SpeculativePoint → List Owner
  | .recording owner => [owner]
  | _ => []

namespace States

variable {p q : ProviderRef} {moved : Obtainment Core → Prop} {states states' states'' : States Core}
  {id : String}

/-- The obtainment from `p` is still there, and no attempt on it was started.  It is as it was, unless it was
one of those `moved`; those do not ask any more. -/
def KeepsObtainment (p : ProviderRef) (moved : Obtainment Core → Prop) (states states' : States Core) :
    Prop :=
  ∀ o ∈ states, o.provider = p →
    ∃ o' ∈ states', o'.provider = p ∧ o'.started = o.started ∧
      ((moved o ∧ o'.isObtaining = false) ∨ o' = o)

theorem KeepsObtainment.refl (p : ProviderRef) (moved : Obtainment Core → Prop) (states : States Core) :
    KeepsObtainment p moved states states :=
  fun o ho hp => ⟨o, ho, hp, rfl, .inr rfl⟩

theorem KeepsObtainment.trans (h : KeepsObtainment p moved states states')
    (h' : KeepsObtainment p moved states' states'') : KeepsObtainment p moved states states'' := by
  intro o ho hp
  obtain ⟨o', ho', hp', hstarted, hmoved⟩ := h o ho hp
  obtain ⟨o'', ho'', hp'', hstarted', hmoved'⟩ := h' o' ho' hp'
  refine ⟨o'', ho'', hp'', hstarted'.trans hstarted, ?_⟩
  rcases hmoved with ⟨hmoved, hover⟩ | rfl
  · rcases hmoved' with ⟨-, hover'⟩ | rfl
    · exact .inl ⟨hmoved, hover'⟩
    · exact .inl ⟨hmoved, hover⟩
  · exact hmoved'

theorem keepsObtainment_map {change : Obtainment Core → Obtainment Core}
    (hprovider : ∀ o ∈ states, (change o).provider = o.provider)
    (hstarted : ∀ o ∈ states, (change o).started = o.started)
    (hmoved : ∀ o ∈ states, (moved o ∧ (change o).isObtaining = false) ∨ change o = o) :
    KeepsObtainment p moved states (states.map change) :=
  fun o ho hp =>
    ⟨change o, List.mem_map_of_mem ho, (hprovider o ho).trans hp, hstarted o ho, hmoved o ho⟩

theorem keepsObtainment_replace (hids : states.ids.Nodup) {o : Obtainment Core}
    (hget : states.get? id = some o) (hmoved : moved o) {phase : ObtainmentPhase Core}
    (hover : ({ o with phase } : Obtainment Core).isObtaining = false) :
    KeepsObtainment p moved states (states.modify id fun _ => { o with phase }) := by
  obtain ⟨ho, hoid⟩ := get?_eq_some hget
  have hthis : ∀ q ∈ states, (q.provider.id == id) = true → q = o := fun q hq hid =>
    List.inj_on_of_nodup_map hids hq ho ((eq_of_beq hid).trans hoid.symm)
  refine keepsObtainment_map (fun q hq => ?_) (fun q hq => ?_) fun q hq => ?_
  · split
    · rename_i hid
      rw [hthis q hq hid]
    · rfl
  · split
    · rename_i hid
      rw [hthis q hq hid]
    · rfl
  · split
    · rename_i hid
      rw [hthis q hq hid]
      exact .inl ⟨hmoved, hover⟩
    · exact .inr rfl

/-- An obtainment whose provider goes on to be tracked is not dropped. -/
theorem mem_sync_of_provider {current : List ProviderRef} {o : Obtainment Core} (ho : o ∈ states)
    (hstays : o.provider ∈ (states.sync current).providers) : o ∈ states.sync current := by
  refine List.mem_append_left _ (List.mem_filter.mpr ⟨ho, ?_⟩)
  obtain ⟨q, hq, hqp⟩ := List.mem_map.mp hstays
  rcases List.mem_append.mp hq with hq | hq
  · have hregistered := (List.mem_filter.mp hq).2
    unfold isRegistered Obtainment.belongsTo at hregistered ⊢
    rwa [hqp] at hregistered
  · obtain ⟨c, hc, rfl⟩ := List.mem_map.mp hq
    exact List.any_eq_true.mpr ⟨c, (List.mem_filter.mp hc).1, by simp [Obtainment.belongsTo, ← hqp,
      Obtainment.new]⟩

/-- A provider that goes on to be tracked is not dropped. -/
theorem keepsObtainment_sync {current : List ProviderRef}
    (hstays : p ∈ states.providers → p ∈ (states.sync current).providers) :
    KeepsObtainment p moved states (states.sync current) := by
  intro o ho hop
  have hmem := mem_sync_of_provider ho (hop ▸ hstays (hop ▸ List.mem_map_of_mem ho))
  exact ⟨o, hmem, hop, rfl, .inr rfl⟩

/-! ## Moves that leave alone what is asked -/

/-- What is asked for a core goes on to be asked. -/
def Spares (p : ProviderRef) (states states' : States Core) : Prop :=
  KeepsObtainment p (fun o => o.isObtaining = false) states states'

theorem spares_takeCore? (hids : states.ids.Nodup) {core : Core}
    (htake : states.takeCore? id = some (core, states')) : Spares p states states' := by
  unfold takeCore? at htake
  split at htake
  · rename_i hbind
    obtain ⟨o, hget, htaken⟩ := Option.bind_eq_some_iff.mp hbind
    obtain ⟨hphase, rfl⟩ := Obtainment.of_take? htaken
    cases htake
    exact keepsObtainment_replace hids hget (by simp [Obtainment.isObtaining, hphase]) rfl
  · exact absurd htake (by simp)

theorem spares_restoreCores : ∀ (ready : List Ready) {states : States Core}, states.ids.Nodup →
    Spares p states (states.restoreCores ready).1 := by
  intro ready
  induction ready with
  | nil => exact fun _ => .refl p _ _
  | cons entry rest ih =>
    obtain ⟨id, core⟩ := entry
    intro states hids
    unfold restoreCores
    cases hrestore : states.restoreCore? id core with
    | none => exact ih hids
    | some states' =>
      have hids' : states'.ids.Nodup := by
        rw [ids_eq_providers, (of_restoreCore? hids hrestore).1, ← ids_eq_providers]
        exact hids
      obtain ⟨o', hback, rfl⟩ := Option.map_eq_some_iff.mp hrestore
      obtain ⟨o, hget, hrestored⟩ := Option.bind_eq_some_iff.mp hback
      obtain ⟨hphase, rfl⟩ := Obtainment.of_restore? hrestored
      exact (keepsObtainment_replace hids hget (by simp [Obtainment.isObtaining, hphase]) rfl).trans
        (ih hids')

/-! ## Outcomes -/

/-- It is the provider `q` that is asked, and under this number. -/
def IsAsked (q : ProviderRef) (number : Nat) (o : Obtainment Core) : Prop :=
  o.provider = q ∧ o.isCurrent number = true

theorem provider_of_own? {o : Obtainment Core} (hown : states.own? q = some o) : o.provider = q := by
  obtain ⟨hget, hserial⟩ := of_own? hown
  have hid := (get?_eq_some hget).2
  have hserial : o.provider.serial = q.serial := by simpa [Obtainment.belongsTo] using hserial
  cases hq : o.provider
  cases q
  simp_all

end States

namespace Speculative

variable {chance : Chance} {p : ProviderRef} {f f' : Speculative} {s s' : Scene} {a b : Attempt} {me : Nat}
  {news : List Attempt}

/-! ## What the steps do to the obtainment from a provider -/

theorem keepsObtainment_applyOutcome {states : States Core} (hids : states.ids.Nodup) (a : Attempt)
    (core : Option Core) :
    States.KeepsObtainment p (States.IsAsked a.provider a.number) states (applyOutcome states a core).1 := by
  rcases current_or_stale states a with ⟨o, hown, hcurrent⟩ | hstale
  · rw [applyOutcome_of_current hown hcurrent]
    exact States.keepsObtainment_replace hids (States.of_own? hown).1
      ⟨States.provider_of_own? hown, hcurrent⟩ (by cases core <;> rfl)
  · rw [applyOutcome_of_stale hstale]
    exact .refl p _ states

theorem keepsObtainment_recordPanic (hids : f.states.ids.Nodup) (owner : Owner) (s : Scene) :
    States.KeepsObtainment p (States.IsAsked owner.provider owner.number) f.states
      (f.recordPanic owner s).1.states := by
  unfold recordPanic
  cases hfail : (f.states.own? owner.provider).bind (·.fail? owner.number) with
  | none => exact .refl p _ f.states
  | some o' =>
    obtain ⟨o, hown, hfailed⟩ := Option.bind_eq_some_iff.mp hfail
    obtain ⟨hcurrent, rfl⟩ := Obtainment.of_fail? hfailed
    exact States.keepsObtainment_replace hids (States.of_own? hown).1
      ⟨States.provider_of_own? hown, hcurrent⟩ rfl

theorem nextHolder_spares (pending : Nat) (ready : List Ready) (discarded : List Core) :
    ∀ (holders : List String) {f : Speculative} (s : Scene), f.states.ids.Nodup →
      States.Spares p f.states (f.nextHolder pending ready discarded s holders).1.states := by
  intro holders
  induction holders with
  | nil => exact fun _ _ => .refl p _ _
  | cons id rest ih =>
    intro f s hids
    unfold nextHolder
    split
    · exact .refl p _ _
    · cases htake : f.states.takeCore? id with
      | none => exact ih s hids
      | some taken => exact States.spares_takeCore? hids htake

theorem count_spares (chance : Chance) (hids : f.states.ids.Nodup) (discarded : List Core) (board : Board)
    (s : Scene) : States.Spares p f.states (f.count chance discarded board s).1.states := by
  unfold count
  simp only
  split
  · exact .refl p _ _
  · exact nextHolder_spares _ _ _ _ _ hids

/-! ## Telling attempts apart -/

/-- Those whose outcome may still come in. -/
def known (f : Speculative) : List Owner := f.owners ++ f.point.recorded

/-- The attempts on the provider can be told apart by their numbers, and one that was not cancelled is the
one by which the provider is engaged. -/
structure TellsApart (p : ProviderRef) (s : Scene) (f : Speculative) : Prop where
  owned : f.working ⊆ f.owners
  /-- Numbers from the last one on are free. -/
  tracked : ∀ x ∈ f.known, x.provider = p → ∃ o ∈ f.states, o.provider = p ∧ x.number ≤ o.started
  apart : ∀ number, f.known.countP (fun x => x.asks == (p, number)) ≤ 1
  awaited : ∀ a ∈ f.attempts, a.provider = p → s.isCancelled a.token = false →
    ∃ o ∈ f.states, o.provider = p ∧ o.phase = .obtaining a.number a.token

theorem Starts.started_le (hids : f.states.ids.Nodup) (hstarts : Starts me f s news f' s')
    {o : Obtainment Core} (ho : o ∈ f.states) : o.started ≤ (o.resumed news).started := by
  by_cases hmem : o.provider.id ∈ news.map (·.provider.id)
  · obtain ⟨a, -, -, hopens, hresumed⟩ := hstarts.opened hids ho hmem
    rw [hresumed]
    exact Nat.le_of_lt (hopens.number ▸ Nat.lt_succ_self _)
  · rw [Obtainment.resumed_of_not_mem hmem]

theorem Starts.known_perm (hstarts : Starts me f s news f' s') :
    f'.known.Perm (news.map (·.owner) ++ f.known) := by
  simp only [known, hstarts.fulfiller, List.append_assoc]
  exact List.perm_append_comm_assoc _ _ _

/-- An attempt that was started engages its provider, and is its last one. -/
theorem Starts.engaged (hstarts : Starts me f s news f' s') (ha : a ∈ news) :
    ∃ o ∈ f'.states, o.provider = a.provider ∧ o.phase = .obtaining a.number a.token ∧
      o.started = a.number := by
  obtain ⟨o, ho, -, hopens⟩ := hstarts.opens a ha
  refine ⟨o.resumed news, ?_, ?_, ?_⟩
  · rw [hstarts.states]
    exact List.mem_map_of_mem ho
  · rw [Obtainment.provider_resumed, hopens.provider]
  · rw [Obtainment.resumed_of_mem hstarts.providers ha (by rw [hopens.provider])]
    exact ⟨rfl, rfl⟩

/-- At most one attempt on a provider is started. -/
theorem Starts.countP_owner_le (hstarts : Starts me f s news f' s') (p : ProviderRef) (number : Nat) :
    (news.map (·.owner)).countP (fun x => x.asks == (p, number)) ≤ 1 := by
  by_cases hnone : (news.map (·.owner)).countP (fun x => x.asks == (p, number)) = 0
  · rw [hnone]
    exact Nat.zero_le _
  · obtain ⟨x, hx, hasks⟩ := List.countP_pos_iff.mp (Nat.pos_of_ne_zero hnone)
    obtain ⟨a, ha, rfl⟩ := List.mem_map.mp hx
    have hid : ∀ b ∈ news, b.owner.asks == (p, number) →
        (b.provider.id == a.provider.id && b.owner.asks == (p, number)) = true := fun b _ hbasks => by
      have hsame := (eq_of_beq hbasks).trans (eq_of_beq hasks).symm
      have hprovider : b.provider = a.provider := (Prod.mk.inj hsame).1
      rw [hprovider, beq_self_eq_true, Bool.true_and]
      exact hbasks
    rw [List.countP_map]
    refine Nat.le_trans (List.countP_mono_left hid) ?_
    rw [countP_key hstarts.providers ha fun b => b.owner.asks == (p, number)]
    exact Bool.toNat_le _

namespace TellsApart

theorem withGuard (h : f.TellsApart p s) (guard : Guard Task) :
    ({ f with guard } : Speculative).TellsApart p s :=
  ⟨h.owned, h.tracked, h.apart, h.awaited⟩

/-- Two attempts on the provider with one number are the same. -/
theorem serial_eq (h : f.TellsApart p s) (ha : a ∈ f.attempts) (hb : b ∈ f.attempts) (hap : a.provider = p)
    (hbp : b.provider = p) (hnumber : b.number = a.number) : a.serial = b.serial := by
  have howner : ∀ c ∈ f.attempts, c.owner ∈ f.known := fun c hc =>
    List.mem_append_left _ (h.owned (List.mem_map_of_mem hc))
  have heq := eq_of_countP_le_one (h.apart a.number) (howner a ha)
    (by simp [Attempt.owner, Owner.asks, hap]) (howner b hb)
    (by simp [Attempt.owner, Owner.asks, hbp, hnumber])
  exact congrArg Owner.serial heq

/-- On one provider only one attempt is not cancelled. -/
theorem eq_of_not_isCancelled (h : f.TellsApart p s) (hids : f.states.ids.Nodup)
    (hserials : (f.attempts.map (·.serial)).Nodup) (ha : a ∈ f.attempts) (hap : a.provider = p)
    (hawanted : s.isCancelled a.token = false) (hb : b ∈ f.attempts) (hbp : b.provider = p)
    (hbwanted : s.isCancelled b.token = false) : a = b := by
  obtain ⟨o, ho, hop, hphase⟩ := h.awaited a ha hap hawanted
  obtain ⟨q, hq, hqp, hphase'⟩ := h.awaited b hb hbp hbwanted
  have hsame : o = q := List.inj_on_of_nodup_map hids ho hq (by rw [hop, hqp])
  rw [hsame, hphase'] at hphase
  have hnumber : b.number = a.number := (ObtainmentPhase.obtaining.inj hphase).1
  exact List.inj_on_of_nodup_map hserials ha hb (h.serial_eq ha hb hap hbp hnumber)

/-- The attempts go on, or are over, and the obtainment moves on at most where no attempt that was not
cancelled is awaited. -/
theorem goesOn (h : f.TellsApart p s) (moved : Obtainment Core → Prop) (hprecedes : s.Precedes s')
    (hattempts : ∀ a' ∈ f'.attempts, ∃ a ∈ f.attempts, a.owner = a'.owner ∧ a.token = a'.token)
    (howned : f'.working ⊆ f'.owners) (hknown : f'.known.Subperm f.known)
    (hkeeps : States.KeepsObtainment p moved f.states f'.states)
    (hmoved : ∀ o ∈ f.states, o.provider = p → moved o → ∀ a ∈ f'.attempts, a.provider = p →
      s'.isCancelled a.token = false → o.phase ≠ .obtaining a.number a.token) :
    f'.TellsApart p s' where
  owned := howned
  tracked x hx hxp := by
    obtain ⟨o, ho, hop, hle⟩ := h.tracked x (hknown.subset hx) hxp
    obtain ⟨o', ho', hop', hstarted, -⟩ := hkeeps o ho hop
    exact ⟨o', ho', hop', hstarted ▸ hle⟩
  apart number := Nat.le_trans (hknown.countP_le _) (h.apart number)
  awaited a' ha' hp hwanted := by
    obtain ⟨a, ha, howner, htoken⟩ := hattempts a' ha'
    have hprovider : a.provider = a'.provider := congrArg Owner.provider howner
    have hnumber : a.number = a'.number := congrArg Owner.number howner
    obtain ⟨o, ho, hop, hphase⟩ := h.awaited a ha (hprovider.trans hp)
      (htoken ▸ hprecedes.not_isCancelled hwanted)
    rw [hnumber, htoken] at hphase
    obtain ⟨o', ho', hop', -, hthis⟩ := hkeeps o ho hop
    rcases hthis with ⟨hmove, -⟩ | rfl
    · exact absurd hphase (hmoved o ho hop hmove a' ha' hp hwanted)
    · exact ⟨o', ho', hop', hphase⟩

/-- The attempts go on, or are over, and the obtainment does not move. -/
theorem stands (h : f.TellsApart p s) (hprecedes : s.Precedes s')
    (hattempts : ∀ a' ∈ f'.attempts, ∃ a ∈ f.attempts, a.owner = a'.owner ∧ a.token = a'.token)
    (howned : f'.working ⊆ f'.owners) (hknown : f'.known.Subperm f.known)
    (hkeeps : States.KeepsObtainment p (fun _ => False) f.states f'.states) : f'.TellsApart p s' :=
  h.goesOn _ hprecedes hattempts howned hknown hkeeps fun _ _ _ hmoved => hmoved.elim

theorem known_subperm (howners : f'.owners.Subperm f.owners) (hpoint : f'.point.recorded = []) :
    f'.known.Subperm f.known := by
  rw [known, hpoint, List.append_nil]
  exact howners.trans (List.sublist_append_left _ _).subperm

theorem later (h : f.TellsApart p s) (hprecedes : s.Precedes s') : f.TellsApart p s' :=
  h.stands hprecedes (fun a ha => ⟨a, ha, rfl, rfl⟩) h.owned (List.Subperm.refl _) (.refl p _ _)

theorem spares (h : f.TellsApart p s) (hprecedes : s.Precedes s') (hless : f.AsksNoMore f')
    (hpoint : f'.point.recorded = []) (hspares : States.Spares p f.states f'.states) :
    f'.TellsApart p s' := by
  refine h.goesOn _ hprecedes (fun a ha => ⟨a, hless.attempts ▸ ha, rfl, rfl⟩) ?_
    (known_subperm (hless.owners ▸ List.Subperm.refl _) hpoint) hspares fun o _ _ hidle a _ _ _ hphase => ?_
  · rw [working, hless.attempts, hless.owners]
    exact h.owned
  · simp [Obtainment.isObtaining, hphase] at hidle

/-- An attempt that is started gets the next number. -/
theorem starts (h : f.TellsApart p s) (hids : f.states.ids.Nodup) (hstarts : Starts me f s news f' s') :
    f'.TellsApart p s' := by
  have hcancelled : ∀ t, s'.isCancelled t = s.isCancelled t := fun t => by
    rw [Scene.isCancelled, hstarts.fired]
    rfl
  -- The obtainment that an attempt of `news` on `p` starts from is the one that is tracked.
  have hfresh : ∀ a ∈ news, a.provider = p → ∀ x ∈ f.known, x.provider = p → x.number < a.number := by
    intro a ha hap x hx hxp
    obtain ⟨o, ho, -, hopens⟩ := hstarts.opens a ha
    obtain ⟨q, hq, hqp, hle⟩ := h.tracked x hx hxp
    have hqo : q = o := List.inj_on_of_nodup_map hids hq ho (by rw [hqp, ← hopens.provider, hap])
    rw [hopens.number, ← hqo]
    exact Nat.lt_succ_of_le hle
  have hknown := hstarts.known_perm
  refine ⟨?_, fun x hx hxp => ?_, fun number => ?_, fun a ha hap hwanted => ?_⟩
  · rw [working, hstarts.fulfiller, List.map_append]
    exact List.append_subset.mpr ⟨List.subset_append_of_subset_left _ h.owned,
      List.subset_append_right _ _⟩
  · rcases List.mem_append.mp (hknown.mem_iff.mp hx) with hx | hx
    · obtain ⟨a, ha, rfl⟩ := List.mem_map.mp hx
      obtain ⟨o, ho, hprovider, -, hstarted⟩ := hstarts.engaged ha
      exact ⟨o, ho, hprovider.trans hxp, Nat.le_of_eq hstarted.symm⟩
    · obtain ⟨o, ho, hop, hle⟩ := h.tracked x hx hxp
      refine ⟨o.resumed news, ?_, by rw [Obtainment.provider_resumed, hop], Nat.le_trans hle ?_⟩
      · rw [hstarts.states]
        exact List.mem_map_of_mem ho
      · exact hstarts.started_le hids ho
  · rw [hknown.countP_eq, List.countP_append]
    -- Either nobody new has the number, or only one has, and nobody had it before.
    by_cases hcount : (news.map (·.owner)).countP (fun x => x.asks == (p, number)) = 0
    · rw [hcount, Nat.zero_add]
      exact h.apart number
    · obtain ⟨x, hx, hasks⟩ := List.countP_pos_iff.mp (Nat.pos_of_ne_zero hcount)
      obtain ⟨a, ha, rfl⟩ := List.mem_map.mp hx
      obtain ⟨hap, hnumber⟩ := Prod.mk.inj (eq_of_beq hasks)
      have hnone : f.known.countP (fun x => x.asks == (p, number)) = 0 := by
        refine List.countP_eq_zero.mpr fun y hy hyasks => ?_
        obtain ⟨hyp, hynumber⟩ := Prod.mk.inj (eq_of_beq hyasks)
        exact Nat.lt_irrefl _ (hynumber.trans hnumber.symm ▸ hfresh a ha hap y hy hyp)
      rw [hnone, Nat.add_zero]
      exact hstarts.countP_owner_le p number
  · rw [hcancelled] at hwanted
    rw [hstarts.fulfiller] at ha
    rcases List.mem_append.mp ha with ha | ha
    · obtain ⟨o, ho, hop, hphase⟩ := h.awaited a ha hap hwanted
      refine ⟨o, ?_, hop, hphase⟩
      rw [hstarts.states]
      refine List.mem_map.mpr ⟨o, ho, hstarts.keeps hids ho ?_⟩
      simp [Obtainment.isEngaged, Obtainment.isIdle, hphase]
    · obtain ⟨o, ho, hprovider, hphase, -⟩ := hstarts.engaged ha
      exact ⟨o, ho, hprovider.trans hap, hphase⟩

/-- Whoever is given up while an attempt is in flight is cancelled. -/
theorem givesUp {discarded discarded' : List Core} {gone : List (Obtainment Core)}
    (h : f.TellsApart p s) (hids : f.states.ids.Nodup) (hprecedes : s.Precedes s')
    (hgives : GivesUp f s discarded gone f' s' discarded') :
    f'.TellsApart p s' := by
  refine h.goesOn (· ∈ gone) hprecedes (fun a ha => ⟨a, ?_, rfl, rfl⟩)
    ?_ ?_ ?_ fun o ho hop hgone a ha hap hwanted hphase => ?_
  · rwa [hgives.fulfiller] at ha
  · rw [working, hgives.fulfiller]
    exact h.owned
  · rw [known, hgives.fulfiller]
    exact List.Subperm.refl _
  · rw [hgives.states]
    refine States.keepsObtainment_map (fun o _ => ?_) (fun o _ => ?_) fun o ho => ?_
    · split <;> rfl
    · split <;> rfl
    · by_cases hgone : o ∈ gone
      · exact .inl ⟨hgone, by rw [if_pos (List.mem_map_of_mem hgone)]; rfl⟩
      · refine .inr (if_neg fun hmem => hgone ?_)
        obtain ⟨q, hq, hid⟩ := List.mem_map.mp hmem
        rwa [List.inj_on_of_nodup_map hids ho (hgives.engaged q hq).1 hid.symm]
  · have hflight : o.inFlight? = some a.token := by simp [Obtainment.inFlight?, hphase]
    exact Bool.eq_false_iff.mp hwanted (hgives.isCancelled hgone hflight)

end TellsApart

/-! ## Attempts -/

theorem TellsApart.attemptGoTo (h : f.TellsApart p s) (hprecedes : s.Precedes s') (a : Attempt)
    (point : AttemptPoint) : (f.attemptGoTo a point).TellsApart p s' := by
  refine h.stands hprecedes (fun b' hb' => ?_) ?_ (List.Subperm.refl _) (.refl p _ _)
  · obtain ⟨b, hb, rfl⟩ := List.mem_map.mp hb'
    refine ⟨b, hb, ?_, ?_⟩
    · split <;> rfl
    · split <;> rfl
  · rw [working_attemptGoTo]
    exact h.owned

theorem working_exitAttempt_subset (f : Speculative) (a : Attempt) (isPanic : Bool) :
    (f.exitAttempt a isPanic).working ⊆ f.working :=
  List.map_subset _ List.filter_sublist.subset

/-- An attempt that panics leaves its provider engaged. -/
theorem TellsApart.exitAttempt (h : f.TellsApart p s) (hprecedes : s.Precedes s') (a : Attempt)
    (isPanic : Bool) : (f.exitAttempt a isPanic).TellsApart p s' :=
  h.stands hprecedes (fun b hb => ⟨b, (List.mem_filter.mp hb).1, rfl, rfl⟩)
    (List.Subset.trans (working_exitAttempt_subset f a isPanic) h.owned) (List.Subperm.refl _)
    (.refl p _ _)

/-- The outcome of an attempt is not taken for that of another one. -/
theorem TellsApart.settle (h : f.TellsApart p s) (hids : f.states.ids.Nodup)
    (ha : a ∈ f.attempts) (hprecedes : s.Precedes s') (core : Option Core) (s₁ : Scene) :
    (f.settle a core s₁).1.TellsApart p s' := by
  rcases settle_fst f a core s₁ with heq | heq
  · rw [heq]
    exact (h.withGuard f.leave.guard).attemptGoTo hprecedes a _
  rw [heq]
  refine h.goesOn (States.IsAsked a.provider a.number) hprecedes
    (fun b hb => ⟨b, (List.mem_filter.mp hb).1, rfl, rfl⟩)
    (List.Subset.trans (working_exitAttempt_subset f a false) h.owned) (List.Subperm.refl _)
    (keepsObtainment_applyOutcome hids a core) fun o _ hop hasked b hb hbp _ hphase => ?_
  obtain ⟨hprovider, hcurrent⟩ := hasked
  obtain ⟨hb, hother⟩ := List.mem_filter.mp hb
  have hnumber : b.number = a.number := by simpa [Obtainment.isCurrent, hphase] using hcurrent
  have hap : a.provider = p := hprovider.symm.trans hop
  exact bne_iff_ne.mp hother (h.serial_eq hb ha hbp hap hnumber.symm)

/-- Every step of an attempt leaves the attempts told apart. -/
theorem stepAttempt_tellsApart (hids : f.states.ids.Nodup) (h : f.TellsApart p s) (ha : a ∈ f.attempts)
    {r : Speculative × Scene} (hstep : f.stepAttempt me a s = some r) (hprecedes : s.Precedes r.2) :
    r.1.TellsApart p r.2 := by
  cases stepAttempt_attemptStep hstep with
  | withdraws _ _ => exact h.attemptGoTo hprecedes a _
  | calls _ _ => exact h.attemptGoTo hprecedes a _
  | @receives _ result _ _ _ =>
    cases result with
    | core core => exact h.attemptGoTo hprecedes a _
    | failed chain => exact h.attemptGoTo hprecedes a _
    | panicked => exact h.exitAttempt hprecedes a true
  | resumes _ => exact h.attemptGoTo hprecedes a _
  | joins _ _ => exact h.withGuard _
  | @settles core guard _ _ => exact (h.withGuard guard).settle hids ha hprecedes core s
  | exits _ => exact h.exitAttempt hprecedes a false

/-! ## The loop -/

theorem SpeculativePoint.recorded_of_isInPass {point : SpeculativePoint}
    (hpass : point.isInPass = true) : point.recorded = [] := by
  cases point with
  | recording owner => exact absurd hpass Bool.false_ne_true
  | _ => rfl

theorem TellsApart.turn (h : f.TellsApart p s) (hprecedes : s.Precedes s') (s₁ : Scene) :
    (f.turn s₁).1.TellsApart p s' := by
  unfold Speculative.turn
  split
  · exact h.spares hprecedes (asksNoMore_goTo f _) rfl (.refl p _ _)
  · exact h.spares hprecedes (asksNoMore_goTo f _) rfl (.refl p _ _)

/-- A provider that stays tracked keeps its obtainment. -/
theorem TellsApart.reconcile (h : f.TellsApart p s) (hprecedes : s.Precedes s')
    (hstays : p ∈ f.states.providers → p ∈ (f.reconcile s).1.states.providers) :
    (f.reconcile s).1.TellsApart p s' :=
  h.stands hprecedes (fun a ha => ⟨a, ha, rfl, rfl⟩) h.owned
    (known_subperm (List.Subperm.refl _) rfl) (States.keepsObtainment_sync hstays)

theorem TellsApart.count (h : f.TellsApart p s) (hids : f.states.ids.Nodup) (hprecedes : s.Precedes s')
    (chance : Chance) (discarded : List Core) (board : Board) (s₁ : Scene) :
    (f.count chance discarded board s₁).1.TellsApart p s' :=
  h.spares hprecedes (count_asksNoMore chance f discarded board s₁)
    (SpeculativePoint.recorded_of_isInPass (count_holds chance hids discarded board s₁).point)
    (count_spares chance hids discarded board s₁)

theorem TellsApart.nextHolder (h : f.TellsApart p s) (hids : f.states.ids.Nodup)
    (hprecedes : s.Precedes s') (pending : Nat) (ready : List Ready) (discarded : List Core) (s₁ : Scene)
    (holders : List String) : (f.nextHolder pending ready discarded s₁ holders).1.TellsApart p s' :=
  h.spares hprecedes (nextHolder_asksNoMore pending ready discarded holders f s₁)
    (SpeculativePoint.recorded_of_isInPass (nextHolder_holds pending ready discarded holders hids).point)
    (nextHolder_spares pending ready discarded holders s₁ hids)

theorem TellsApart.judge (h : f.TellsApart p s) (hids : f.states.ids.Nodup) (hprecedes : s.Precedes s')
    (pending : Nat) (ready : List Ready) (held : Ready) (holders : List String) (discarded : List Core)
    (isAlive : Bool) (s₁ : Scene) :
    (f.judge pending ready held holders discarded isAlive s₁).1.TellsApart p s' := by
  obtain ⟨ready', discarded', s₂, -, heq⟩ :=
    judge_eq_nextHolder f pending ready held holders discarded isAlive s₁
  rw [heq]
  exact h.nextHolder hids hprecedes pending ready' discarded' s₂ holders

/-- At its end a pass puts cores back, and then starts attempts or gives obtainments up. -/
theorem finishPass_starts_or_givesUp (chance : Chance) (hids : f.states.ids.Nodup) (me : Nat)
    (ready : List Ready) (discarded : List Core) (board : Board) (s : Scene) :
    ∃ leftovers g s₁ s₂, s.Precedes s₁ ∧ s₁.Precedes s₂ ∧
      s₂.Precedes (f.finishPass chance me ready discarded board s).2 ∧
      (∃ cores, (f.finishPass chance me ready discarded board s).1 =
        g.leave.goTo (.inTurn .discarding .idle cores)) ∧
      ((∃ news, Starts me (f.putBack leftovers) s₁ news g s₂) ∨
        ∃ put gone put', GivesUp (f.putBack leftovers) s₁ put gone g s₂ put') := by
  obtain ⟨events, hassigns⟩ := f.assign_assigns
    ((board.registry.candidates f.constraint).map (·.id)) ready s
  rw [finishPass_eq]
  generalize f.assign s ((board.registry.candidates f.constraint).map (·.id)) ready = matched at *
  have hassigned : s.Precedes (matched.scene.leave f.board) :=
    hassigns.acts.precedes.trans (Scene.aside_leave _ f.board).toPrecedes
  have hsized := (rebalance_rebalanceStep chance (putBack_ids hids matched.leftovers) me
    (matched.scene.leave f.board) matched.pending
    (discarded ++ (f.states.restoreCores matched.leftovers).2)).aside.toPrecedes
  have hdisposed := (Scene.acts_disposeCores (may_disposed f.subscription)
    ((f.resize chance me discarded matched).2.2.take 1)
    (f.resize chance me discarded matched).2.1).precedes
  refine ⟨matched.leftovers, _, _, _, hassigned, hsized, hdisposed, ⟨_, rfl⟩, ?_⟩
  rcases resize_starts_or_givesUp chance hids me discarded matched with
    ⟨-, news, hstarts⟩ | ⟨gone, hgivesUp⟩
  · exact .inl ⟨news, hstarts⟩
  · exact .inr ⟨_, gone, _, hgivesUp⟩

/-- The end of a pass tracks the providers that were tracked. -/
theorem finishPass_providers (chance : Chance) (hids : f.states.ids.Nodup) (me : Nat) (ready : List Ready)
    (discarded : List Core) (board : Board) (s : Scene) :
    (f.finishPass chance me ready discarded board s).1.states.providers = f.states.providers := by
  rw [finishPass_eq]
  generalize f.assign s ((board.registry.candidates f.constraint).map (·.id)) ready = matched
  have hproviders := resize_providers chance me discarded matched hids
  generalize f.resize chance me discarded matched = sized at *
  exact hproviders

/-- The end of a pass starts attempts or gives obtainments up. -/
theorem TellsApart.finishPass (h : f.TellsApart p s) (hids : f.states.ids.Nodup) (chance : Chance) (me : Nat)
    {ready : List Ready} {discarded : List Core} (hpoint : f.point = .matching ready discarded)
    (board : Board) : (f.finishPass chance me ready discarded board s).1.TellsApart p
      (f.finishPass chance me ready discarded board s).2 := by
  obtain ⟨leftovers, g, s₁, s₂, hassigned, hsized, hdisposed, ⟨cores, heq⟩, hresizes⟩ :=
    finishPass_starts_or_givesUp chance hids me ready discarded board s
  have hids' := putBack_ids hids leftovers
  have hback : (f.putBack leftovers).TellsApart p s₁ :=
    h.spares hassigned (asksNoMore_putBack f leftovers) (by rw [putBack, hpoint]; rfl)
      (States.spares_restoreCores leftovers hids)
  have hafter : g.TellsApart p s₂ := by
    rcases hresizes with ⟨news, hstarts⟩ | ⟨put, gone, put', hgivesUp⟩
    · exact hback.starts hids' hstarts
    · exact hback.givesUp hids' hsized hgivesUp
  rw [heq]
  exact hafter.spares hdisposed (asksNoMore_rests g _) 
    (SpeculativePoint.of_inTurn (P := (·.recorded = [])) (fun _ => rfl) rfl cores) (.refl p _ _)

/-- The loop lets go of an owner once the attempt is over. -/
theorem TellsApart.noticeExit {exit : Exit} {exits : List Exit} {seen : List Owner} {bound : Nat}
    (h : f.TellsApart p s) (hprecedes : s.Precedes s') (hover : f.Oversees seen bound)
    (hexits : f.exits = exit :: exits) (hpoint : ∀ owner, f.point ≠ .recording owner) (s₁ : Scene) :
    (({ f with exits } : Speculative).noticeExit exit s₁).1.TellsApart p s' := by
  obtain ⟨owner, howner, hserial⟩ := hover.owner_of_exit (hexits ▸ List.mem_cons_self)
  have hothers : f.owners.Perm (owner :: f.owners.filter (·.serial != exit.serial)) :=
    hserial ▸ perm_cons_remove hover.nodup howner
  have hleads : ∀ {point : SpeculativePoint}, point.recorded.Sublist [owner] →
      (exit.isPanic = true → point = .recording owner) →
      ({ f with exits, owners := f.owners.filter (·.serial != exit.serial), point } :
        Speculative).TellsApart p s' := fun {point} hrecorded hpanic => by
    have hletGo := hover.letGo hexits howner hserial hpoint hpanic
    have hknown : (f.owners.filter (·.serial != exit.serial) ++ point.recorded).Subperm f.known := by
      have hperm := (List.perm_append_singleton owner (f.owners.filter (·.serial != exit.serial))).trans
        hothers.symm
      exact ((hrecorded.append_left _).subperm.trans hperm.subperm).trans
        (List.sublist_append_left _ _).subperm
    exact h.stands hprecedes (fun a ha => ⟨a, ha, rfl, rfl⟩) hletGo.owned hknown (.refl p _ _)
  have hfound := find?_key hover.nodup howner
  rw [hserial] at hfound
  unfold Speculative.noticeExit
  simp only [hfound]
  split
  · exact hleads (List.Sublist.refl _) fun _ => rfl
  · rename_i hcalm
    have hgone : ({ f with exits, owners := f.owners.filter (·.serial != exit.serial) } :
        Speculative).TellsApart p s' := by
      refine hleads ?_ fun hpanic => absurd hpanic hcalm
      cases hthere : f.point with
      | recording owner => exact absurd hthere (hpoint owner)
      | _ => exact List.nil_sublist _
    exact hgone.turn (.refl s') s₁

/-- The panic of an attempt is not taken for that of another one. -/
theorem TellsApart.recordPanic {owner : Owner} (h : f.TellsApart p s) (hids : f.states.ids.Nodup)
    (hprecedes : s.Precedes s') (hpoint : f.point = .recording owner) (s₁ : Scene) :
    (f.recordPanic owner s₁).1.TellsApart p s' := by
  refine h.goesOn (States.IsAsked owner.provider owner.number) hprecedes
    (fun a ha => ⟨a, ha, rfl, rfl⟩) h.owned (known_subperm (List.Subperm.refl _) rfl)
    (keepsObtainment_recordPanic hids owner s₁) fun o _ hop hasked a ha hap _ hphase => ?_
  obtain ⟨hprovider, hcurrent⟩ := hasked
  have hnumber : a.number = owner.number := by simpa [Obtainment.isCurrent, hphase] using hcurrent
  have hcount := h.apart owner.number
  have hrecorded : owner.asks = (p, owner.number) := by rw [Owner.asks, ← hprovider, hop]
  have hworking : 0 < f.owners.countP (fun x => x.asks == (p, owner.number)) := by
    refine List.countP_pos_iff.mpr ⟨a.owner, h.owned (List.mem_map_of_mem ha), ?_⟩
    simp [Attempt.owner, Owner.asks, hap, hnumber]
  rw [known, hpoint, SpeculativePoint.recorded, List.countP_append, List.countP_singleton, hrecorded,
    beq_self_eq_true, if_pos rfl] at hcount
  omega

/-- Giving everything up cancels every attempt that was not cancelled. -/
theorem TellsApart.releaseAll (h : f.TellsApart p s) (hprecedes : s.Precedes (f.releaseAll s).2) :
    (f.releaseAll s).1.TellsApart p (f.releaseAll s).2 := by
  rw [releaseAll_eq] at hprecedes ⊢
  refine h.goesOn (fun _ => True) hprecedes (fun a ha => ⟨a, ha, rfl, rfl⟩) h.owned
    (known_subperm (List.Subperm.refl _)
      (SpeculativePoint.of_inTurn (P := (·.recorded = [])) (fun _ => rfl) rfl _))
    (States.keepsObtainment_map (fun _ _ => rfl) (fun _ _ => rfl) fun _ _ => .inl ⟨trivial, rfl⟩)
    fun o ho _ _ a _ _ hwanted hphase => ?_
  have hdisposed := (Scene.acts_disposeCores (may_disposed f.subscription)
    ((f.states.filterMap (·.heldCore?)).take 1)
    ((f.states.filterMap (·.inFlight?)).foldl Scene.fire s)).precedes
  have hflight : a.token ∈ f.states.filterMap (·.inFlight?) :=
    List.mem_filterMap.mpr ⟨o, ho, by simp [Obtainment.inFlight?, hphase]⟩
  refine Bool.eq_false_iff.mp (hdisposed.not_isCancelled hwanted) ?_
  rw [Scene.foldl_fire]
  simp [Scene.isCancelled, Token.isCancelled, List.mem_map_of_mem hflight]

/-- Every step of the loop that does not drop the provider leaves the attempts told apart. -/
theorem step_tellsApart {seen : List Owner} (hids : f.states.ids.Nodup) (h : f.TellsApart p s)
    (hover : f.point = .idle → f.Oversees seen s.nextSerial)
    {r : Speculative × Scene} (hstays : p ∈ f.states.providers → p ∈ r.1.states.providers)
    (hstep : f.step chance me s = some r) (hprecedes : s.Precedes r.2) : r.1.TellsApart p r.2 := by
  cases step_loopStep hstep with
  | joins _ => exact (h.later hprecedes).withGuard _
  | waits _ => exact h.later hprecedes
  | begins _ => exact h.turn hprecedes _
  | @reconciles guard _ _ => exact (h.withGuard guard).reconcile hprecedes hstays
  | counts _ _ _ => exact h.count hids hprecedes chance _ _ _
  | judges _ _ isAlive => exact h.judge hids hprecedes _ _ _ _ _ isAlive _
  | assigns hpoint haside _ => exact (h.later haside.toPrecedes).finishPass hids chance me hpoint _
  | discards _ | dissolves _ =>
    rw [disposeInTurn_eq] at hprecedes ⊢
    exact h.spares hprecedes (asksNoMore_goTo f _)
      (SpeculativePoint.of_inTurn (P := (·.recorded = [])) (fun _ => rfl) rfl _) (.refl p _ _)
  | stops _ _ => exact h.spares hprecedes (asksNoMore_goTo f _) rfl (.refl p _ _)
  | notices hpoint hexits =>
    exact h.noticeExit hprecedes (hover hpoint) hexits (by simp [hpoint]) _
  | wakes _ => exact h.turn hprecedes _
  | @records guard _ hpoint => exact (h.withGuard guard).recordPanic hids hprecedes hpoint s
  | resumes _ => exact h.turn hprecedes _
  | @releases guard _ => exact (h.withGuard guard).releaseAll hprecedes
  | noticesLate _ _ =>
    have hlater := h.later hprecedes
    exact ⟨hlater.owned, hlater.tracked, hlater.apart, hlater.awaited⟩
  | finishes _ hattempts =>
    refine ⟨?_, fun x hx => absurd hx List.not_mem_nil, fun _ => Nat.zero_le _, fun a ha => ?_⟩
    · simp [working, finish, goTo, hattempts]
    · rw [finish, goTo, hattempts] at ha
      exact absurd ha List.not_mem_nil

end Speculative

end CoreBroker
