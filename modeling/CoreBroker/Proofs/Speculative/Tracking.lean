import CoreBroker.Proofs.Speculative.AwareSteps
import CoreBroker.Proofs.Speculative.Numbers
import CoreBroker.Proofs.Speculative.Reconciling
set_option autoImplicit false

/-!
# Which providers are tracked, and since when one is engaged

Only the beginning of a pass changes which providers are tracked, and only its end starts attempts.  While a
provider stays tracked the number of its last attempt does not go back, and an engagement comes about by
the start of an attempt with a higher number alone.
-/

namespace CoreBroker

namespace States

variable {p : ProviderRef} {moved : Obtainment Core → Prop} {states states' states'' : States Core}

/-- What the obtainment from `p` is, it was before, unless an attempt with a higher number was started. -/
def ObtainmentAdvances (p : ProviderRef) (states states' : States Core) : Prop :=
  ∀ o' ∈ states', o'.provider = p → ∃ o ∈ states, o.provider = p ∧ o.started ≤ o'.started ∧
    ∀ number token, o'.phase = .obtaining number token →
      o.phase = .obtaining number token ∨ o.started < number

theorem ObtainmentAdvances.refl (p : ProviderRef) (states : States Core) :
    ObtainmentAdvances p states states :=
  fun o ho hp => ⟨o, ho, hp, Nat.le_refl _, fun _ _ hphase => .inl hphase⟩

theorem ObtainmentAdvances.trans (h : ObtainmentAdvances p states states')
    (h' : ObtainmentAdvances p states' states'') : ObtainmentAdvances p states states'' := by
  intro o'' ho'' hp''
  obtain ⟨o', ho', hp', hle', hphase'⟩ := h' o'' ho'' hp''
  obtain ⟨o, ho, hp, hle, hphase⟩ := h o' ho' hp'
  refine ⟨o, ho, hp, Nat.le_trans hle hle', fun number token hthere => ?_⟩
  rcases hphase' number token hthere with hbefore | hstarted
  · exact hphase number token hbefore
  · exact .inr (Nat.lt_of_le_of_lt hle hstarted)

theorem KeepsObtainment.obtainmentAdvances (h : KeepsObtainment p moved states states')
    (hids : states'.ids.Nodup) (htracked : p ∈ states.providers) : ObtainmentAdvances p states states' := by
  intro o' ho' hp'
  obtain ⟨o, ho, hp⟩ := List.mem_map.mp htracked
  obtain ⟨o'', ho'', hp'', hstarted, hthis⟩ := h o ho hp
  obtain rfl : o'' = o' := List.inj_on_of_nodup_map hids ho'' ho' (by rw [hp'', hp'])
  refine ⟨o, ho, hp, Nat.le_of_eq hstarted.symm, fun number token hphase => ?_⟩
  rcases hthis with ⟨-, hover⟩ | hthis
  · simp [Obtainment.isObtaining, hphase] at hover
  · exact .inl (hthis ▸ hphase)

end States

namespace Speculative

variable {chance : Chance} {p : ProviderRef} {f f' : Speculative} {s s' : Scene} {a : Attempt} {me : Nat}
  {news : List Attempt} {x : Owner}

/-! ## Which providers are tracked -/

theorem turn_states (f : Speculative) (s : Scene) : (f.turn s).1.states = f.states := by
  unfold turn
  split <;> rfl

theorem noticeExit_states (f : Speculative) (exit : Exit) (s : Scene) :
    (f.noticeExit exit s).1.states = f.states := by
  unfold noticeExit
  simp only
  split
  · split <;> rfl
  · exact turn_states _ s

/-- Every step of the loop tracks the providers that were tracked, but for the one that begins a pass. -/
theorem step_tracks (hids : f.states.ids.Nodup) {r : Speculative × Scene}
    (hstep : f.step chance me s = some r) :
    r.1.states.providers = f.states.providers ∨
      (f.point = .reconciling ∧ ∃ guard, r = ({ f with guard } : Speculative).reconcile s) := by
  cases step_loopStep hstep with
  | begins _ => exact .inl (congrArg States.providers (turn_states f _))
  | @reconciles guard hpoint _ => exact .inr ⟨hpoint, guard, rfl⟩
  | counts _ _ _ => exact .inl (count_holds chance hids _ _ _).providers
  | @judges pending ready held _ holders discarded s₁ _ _ isAlive =>
    obtain ⟨ready', discarded', s₂, -, heq⟩ :=
      judge_eq_nextHolder f pending ready held holders discarded isAlive s₁
    rw [heq]
    exact .inl (nextHolder_holds pending ready' discarded' holders hids).providers
  | assigns _ _ _ => exact .inl (finishPass_providers chance hids me _ _ _ _)
  | @notices exit exits _ _ =>
    exact .inl (congrArg States.providers (noticeExit_states { f with exits } exit _))
  | wakes _ => exact .inl (congrArg States.providers (turn_states f _))
  | @records guard owner _ =>
    obtain ⟨states, hproviders, -, heq⟩ := recordPanic_eq (f := { f with guard }) hids owner s
    rw [heq]
    exact .inl hproviders
  | resumes _ => exact .inl (congrArg States.providers (turn_states f _))
  | discards _ | dissolves _ =>
    rw [disposeInTurn_eq]
    exact .inl rfl
  | releases _ =>
    rw [releaseAll_eq]
    refine .inl ?_
    show (f.states.map Obtainment.release).map (·.provider) = f.states.map (·.provider)
    rw [List.map_map]
    exact List.map_congr_left fun _ _ => rfl
  | _ => exact .inl rfl

/-- A provider that is tracked and on the roster goes on to be tracked. -/
theorem step_tracks_listed (hids : f.states.ids.Nodup) {r : Speculative × Scene}
    (hstep : f.step chance me s = some r) (htracked : p ∈ f.states.providers)
    (hlisted : p ∈ f.members s) : p ∈ r.1.states.providers := by
  rcases step_tracks hids hstep with hsame | ⟨-, guard, rfl⟩
  · rwa [hsame]
  · obtain ⟨o, ho, hop⟩ := List.mem_map.mp htracked
    have hregistered : States.isRegistered (f.members s) o = true :=
      List.any_eq_true.mpr ⟨p, hlisted, by simp [Obtainment.belongsTo, hop]⟩
    exact List.mem_map.mpr ⟨o, List.mem_append_left _ (List.mem_filter.mpr ⟨ho, hregistered⟩), hop⟩

/-- An obtainment that is dropped is cancelled while an attempt is in flight. -/
theorem isCancelled_of_dropped {o : Obtainment Core} (ho : o ∈ f.states)
    (hdropped : o.provider ∉ (f.reconcile s).1.states.providers) {t : Token}
    (hflight : o.inFlight? = some t) : (f.reconcile s).2.isCancelled t = true := by
  have hdeparted : o ∈ f.states.departed (f.members s) := by
    refine List.mem_filter.mpr ⟨ho, ?_⟩
    cases hregistered : States.isRegistered (f.members s) o with
    | false => rfl
    | true =>
      have hstays : o ∈ (f.reconcile s).1.states :=
        List.mem_append_left _ (List.mem_filter.mpr ⟨ho, hregistered⟩)
      exact absurd (List.mem_map_of_mem hstays) hdropped
  refine (Token.isCancelled_iff _ _).mpr ⟨t.number, ?_, .inl rfl⟩
  rw [fired_reconcile]
  refine List.mem_append_left _ (List.mem_reverse.mpr (List.mem_map_of_mem ?_))
  exact List.mem_filterMap.mpr ⟨o, hdeparted, hflight⟩

/-! ## Who is heard of -/

/-- The attempt was started: nobody asked its provider before, and now the provider is engaged by this
attempt, the last one on it. -/
structure StartsAttempt (f : Speculative) (a : Attempt) (f' : Speculative) : Prop where
  new : ∀ b ∈ f.attempts, b.serial ≠ a.serial
  idle : ∀ o ∈ f.states, o.provider = a.provider → o.isObtaining = false
  attempt : a ∈ f'.attempts
  engaged : ∃ o ∈ f'.states, o.provider = a.provider ∧ o.phase = .obtaining a.number a.token ∧
    o.started = a.number

/-- Whoever is at work or may still be heard of was so before, or was started. -/
structure KnownOrStarted (f f' : Speculative) : Prop where
  attempts : ∀ a ∈ f'.attempts, a ∈ f.attempts ∨ f.StartsAttempt a f'
  known : ∀ x ∈ f'.known, x ∈ f.known ∨ ∃ a, a.owner = x ∧ f.StartsAttempt a f'

theorem KnownOrStarted.of_subset (hattempts : f'.attempts ⊆ f.attempts) (hknown : f'.known ⊆ f.known) :
    f.KnownOrStarted f' :=
  ⟨fun _ ha => .inl (hattempts ha), fun _ hx => .inl (hknown hx)⟩

theorem AsksNoMore.knownOrStarted (h : f.AsksNoMore f') (hpoint : f'.point.recorded = []) :
    f.KnownOrStarted f' := by
  refine .of_subset (h.attempts ▸ List.Subset.refl _) ?_
  rw [known, hpoint, h.owners, List.append_nil]
  exact List.subset_append_left _ _

theorem Starts.begins (hstarts : Starts me f s news f' s')
    (hbounded : ∀ b ∈ f.attempts, b.serial < s.nextSerial) (hids : f.states.ids.Nodup) (ha : a ∈ news) :
    f.StartsAttempt a f' := by
  obtain ⟨o, ho, hidle, hopens⟩ := hstarts.opens a ha
  refine ⟨fun b hb hserial => ?_, fun q hq hqp => ?_, ?_, hstarts.engaged ha⟩
  · exact absurd (hserial ▸ hbounded b hb) (Nat.not_lt.mpr hopens.serial.1)
  · obtain rfl : q = o := List.inj_on_of_nodup_map hids hq ho (by rw [hqp, hopens.provider])
    obtain ⟨hengaged, hcore⟩ := Obtainment.not_isEngaged_of_isIdle hidle
    rw [Obtainment.isObtaining_of_not_hasCore hcore, hengaged]
  · rw [hstarts.fulfiller]
    exact List.mem_append_right _ ha

/-- A start may follow something that leaves alone what is asked. -/
theorem StartsAttempt.of_spares {g : Speculative} (h : g.StartsAttempt a f')
    (hattempts : g.attempts = f.attempts)
    (hspares : States.Spares a.provider f.states g.states) : f.StartsAttempt a f' where
  new := hattempts ▸ h.new
  idle o ho hp := by
    obtain ⟨o', ho', hp', -, ⟨hnot, -⟩ | rfl⟩ := hspares o ho hp
    · exact hnot
    · exact h.idle o' ho' hp'
  attempt := h.attempt
  engaged := h.engaged

/-- The end of a pass starts attempts, if anything. -/
theorem finishPass_knownOrStarted (chance : Chance) (me : Nat) (hsound : f.IsSound s.nextSerial)
    (ready : List Ready) (discarded : List Core) (board : Board) :
    f.KnownOrStarted (f.finishPass chance me ready discarded board s).1 := by
  obtain ⟨leftovers, g, s₁, s₂, hassigned, -, -, ⟨cores, heq⟩, hresizes⟩ :=
    finishPass_starts_or_givesUp chance hsound.ids me ready discarded board s
  have hrecorded : (SpeculativePoint.inTurn .discarding .idle cores).recorded = [] :=
    SpeculativePoint.of_inTurn (P := (·.recorded = [])) (fun _ => rfl) rfl cores
  rw [heq]
  rcases hresizes with ⟨news, hstarts⟩ | ⟨put, gone, put', hgivesUp⟩
  · have hbounded : ∀ b ∈ f.attempts, b.serial < s₁.nextSerial := fun b hb =>
      Nat.lt_of_lt_of_le (hsound.bounded b hb) hassigned.serial
    have hbegun : ∀ a ∈ news, f.StartsAttempt a (g.leave.goTo (.inTurn .discarding .idle cores)) := by
      intro a ha
      have hafter := hstarts.begins hbounded (putBack_ids hsound.ids leftovers) ha
      have hbegun : f.StartsAttempt a g :=
        hafter.of_spares rfl (States.spares_restoreCores leftovers hsound.ids)
      exact ⟨hbegun.new, hbegun.idle, hbegun.attempt, hbegun.engaged⟩
    refine ⟨fun a ha => ?_, fun x hx => ?_⟩
    · have hmem : a ∈ f.attempts ++ news := by
        rw [hstarts.fulfiller] at ha
        exact ha
      exact (List.mem_append.mp hmem).imp_right (hbegun a)
    · have hmem : x ∈ f.owners ++ news.map (·.owner) := by
        simpa [known, goTo, leave, hrecorded, hstarts.fulfiller, putBack] using hx
      rcases List.mem_append.mp hmem with hold | hnew
      · exact .inl (List.mem_append_left _ hold)
      · obtain ⟨a, ha, rfl⟩ := List.mem_map.mp hnew
        exact .inr ⟨a, rfl, hbegun a ha⟩
  · have hless := (asksNoMore_putBack f leftovers).trans hgivesUp.asksNoMore
    exact (hless.trans (asksNoMore_rests g _)).knownOrStarted hrecorded

theorem noticeExit_knownOrStarted (f : Speculative) (exit : Exit) (exits : List Exit) (s : Scene) :
    f.KnownOrStarted (({ f with exits } : Speculative).noticeExit exit s).1 := by
  have howners : f.owners.filter (·.serial != exit.serial) ⊆ f.known :=
    List.Subset.trans List.filter_sublist.subset (List.subset_append_left _ _)
  unfold noticeExit
  simp only
  split
  · split
    · rename_i owner hfound
      have howner : owner ∈ f.known := List.mem_append_left _ (List.mem_of_find?_eq_some hfound)
      exact .of_subset (List.Subset.refl _) (List.append_subset.mpr
        ⟨howners, List.cons_subset.mpr ⟨howner, List.nil_subset _⟩⟩)
    · exact .of_subset (List.Subset.refl _) (List.append_subset.mpr ⟨howners, List.nil_subset _⟩)
  · unfold turn
    split
    · exact .of_subset (List.Subset.refl _) (List.append_subset.mpr ⟨howners, List.nil_subset _⟩)
    · exact .of_subset (List.Subset.refl _) (List.append_subset.mpr ⟨howners, List.nil_subset _⟩)

/-- Every step of the loop that lets anybody else be heard of starts an attempt. -/
theorem step_knownOrStarted (hsound : f.IsSound s.nextSerial) {r : Speculative × Scene}
    (hstep : f.step chance me s = some r) : f.KnownOrStarted r.1 := by
  have hids := hsound.ids
  have hturn : ∀ s₁, f.KnownOrStarted (f.turn s₁).1 := fun s₁ =>
    (turn_asksNoMore f s₁).knownOrStarted (by unfold turn; split <;> rfl)
  cases step_loopStep hstep with
  | joins _ => exact .of_subset (List.Subset.refl _) (List.Subset.refl _)
  | waits _ => exact .of_subset (List.Subset.refl _) (List.Subset.refl _)
  | begins _ => exact hturn _
  | @reconciles guard _ _ =>
    have hfewer : f.AsksNoMore (({ f with guard } : Speculative).reconcile s).1 :=
      ⟨rfl, rfl, rfl, States.asked_sync_subset f.states _⟩
    exact hfewer.knownOrStarted rfl
  | counts _ _ _ =>
    exact (count_asksNoMore chance f _ _ _).knownOrStarted
      (SpeculativePoint.recorded_of_isInPass (count_holds chance hids _ _ _).point)
  | @judges pending ready held _ holders discarded s₁ _ _ isAlive =>
    obtain ⟨ready', discarded', s₂, -, heq⟩ :=
      judge_eq_nextHolder f pending ready held holders discarded isAlive s₁
    rw [heq]
    exact (nextHolder_asksNoMore pending ready' discarded' holders f s₂).knownOrStarted
      (SpeculativePoint.recorded_of_isInPass
        (nextHolder_holds pending ready' discarded' holders hids).point)
  | assigns _ haside _ => exact finishPass_knownOrStarted chance me (hsound.mono haside.serial) _ _ _
  | discards _ | dissolves _ =>
    rw [disposeInTurn_eq]
    exact (asksNoMore_goTo f _).knownOrStarted
      (SpeculativePoint.of_inTurn (P := (·.recorded = [])) (fun _ => rfl) rfl _)
  | stops _ _ => exact (asksNoMore_goTo f _).knownOrStarted rfl
  | notices _ _ => exact noticeExit_knownOrStarted f _ _ _
  | wakes _ => exact hturn _
  | records _ =>
    exact .of_subset (List.Subset.refl _) (List.append_subset.mpr
      ⟨List.subset_append_left _ _, List.nil_subset _⟩)
  | resumes _ => exact hturn _
  | releases _ =>
    rw [releaseAll_eq]
    have hrecorded : (SpeculativePoint.inTurn .dissolving .joining
        (f.states.filterMap Obtainment.heldCore?)).recorded ⊆ f.known :=
      SpeculativePoint.of_inTurn (P := (·.recorded ⊆ f.known)) (fun _ => List.nil_subset _)
        (List.nil_subset _) _
    exact .of_subset (List.Subset.refl _)
      (List.append_subset.mpr ⟨List.subset_append_left _ _, hrecorded⟩)
  | noticesLate _ _ => exact .of_subset (List.Subset.refl _) (List.Subset.refl _)
  | finishes _ _ => exact .of_subset (List.Subset.refl _) (List.nil_subset _)

/-! ## Since when a provider is engaged -/

/-- Starting attempts gives them higher numbers. -/
theorem Starts.obtainmentAdvances (hids : f.states.ids.Nodup) (hstarts : Starts me f s news f' s') :
    States.ObtainmentAdvances p f.states f'.states := by
  intro o' ho' hp'
  rw [hstarts.states] at ho'
  obtain ⟨o, ho, rfl⟩ := List.mem_map.mp ho'
  rw [Obtainment.provider_resumed] at hp'
  refine ⟨o, ho, hp', hstarts.started_le hids ho, fun number token hphase => ?_⟩
  by_cases hmem : o.provider.id ∈ news.map (·.provider.id)
  · obtain ⟨a, -, -, hopens, hresumed⟩ := hstarts.opened hids ho hmem
    rw [hresumed] at hphase
    obtain ⟨rfl, -⟩ := ObtainmentPhase.obtaining.inj hphase
    exact .inr (hopens.number ▸ Nat.lt_succ_self _)
  · rw [Obtainment.resumed_of_not_mem hmem] at hphase
    exact .inl hphase

theorem GivesUp.obtainmentAdvances {discarded discarded' : List Core} {gone : List (Obtainment Core)}
    (hgives : GivesUp f s discarded gone f' s' discarded') :
    States.ObtainmentAdvances p f.states f'.states := by
  intro o' ho' hp'
  rw [hgives.states] at ho'
  obtain ⟨o, ho, rfl⟩ := List.mem_map.mp ho'
  refine ⟨o, ho, ?_, ?_, fun number token hphase => ?_⟩
  · split at hp' <;> exact hp'
  · split <;> exact Nat.le_refl _
  · split at hphase
    · exact absurd hphase (by simp [Obtainment.release])
    · exact .inl hphase

/-- Every step of the loop that goes on to track the provider. -/
theorem step_obtainmentAdvances (hids : f.states.ids.Nodup) (htracked : p ∈ f.states.providers)
    {r : Speculative × Scene} (hstep : f.step chance me s = some r) (hids' : r.1.states.ids.Nodup)
    (hstays : p ∈ r.1.states.providers) : States.ObtainmentAdvances p f.states r.1.states := by
  have hsame : ∀ {g : Speculative}, g.states = f.states → States.ObtainmentAdvances p f.states g.states :=
    fun hstates => hstates ▸ .refl p _
  cases step_loopStep hstep with
  | begins _ => exact hsame (turn_states f _)
  | reconciles _ _ =>
    have hkept : States.Spares p f.states (f.states.sync (f.members s)) :=
      States.keepsObtainment_sync fun _ => hstays
    exact hkept.obtainmentAdvances hids' htracked
  | counts _ _ _ => exact (count_spares chance hids _ _ _).obtainmentAdvances hids' htracked
  | @judges pending ready held _ holders discarded s₁ _ _ isAlive =>
    obtain ⟨ready', discarded', s₂, -, heq⟩ :=
      judge_eq_nextHolder f pending ready held holders discarded isAlive s₁
    rw [heq] at hids' ⊢
    exact (nextHolder_spares pending ready' discarded' holders s₂ hids).obtainmentAdvances hids' htracked
  | @assigns ready discarded board s₁ _ _ _ =>
    obtain ⟨leftovers, g, s₂, s₃, -, -, -, ⟨cores, heq⟩, hresizes⟩ :=
      finishPass_starts_or_givesUp chance hids me ready discarded board s₁
    have hback : States.ObtainmentAdvances p f.states (f.putBack leftovers).states :=
      (States.spares_restoreCores leftovers hids).obtainmentAdvances (putBack_ids hids leftovers) htracked
    have hsized : States.ObtainmentAdvances p (f.putBack leftovers).states g.states := by
      rcases hresizes with ⟨news, hstarts⟩ | ⟨put, gone, put', hgivesUp⟩
      · exact hstarts.obtainmentAdvances (putBack_ids hids leftovers)
      · exact hgivesUp.obtainmentAdvances
    rw [heq]
    exact hback.trans hsized
  | @notices exit exits _ _ => exact hsame (noticeExit_states { f with exits } exit _)
  | wakes _ => exact hsame (turn_states f _)
  | @records guard owner _ =>
    exact (keepsObtainment_recordPanic (f := { f with guard }) hids owner s).obtainmentAdvances hids' htracked
  | resumes _ => exact hsame (turn_states f _)
  | discards _ | dissolves _ =>
    rw [disposeInTurn_eq]
    exact hsame rfl
  | releases _ =>
    rw [releaseAll_eq] at hids' ⊢
    have hreleases : States.KeepsObtainment p (fun _ => True) f.states (f.states.map Obtainment.release) :=
      States.keepsObtainment_map (fun _ _ => rfl) (fun _ _ => rfl) fun _ _ => .inl ⟨trivial, rfl⟩
    exact hreleases.obtainmentAdvances hids' htracked
  | _ => exact hsame rfl

/-! ## Attempts -/

/-- Every step of an attempt lets nobody else be heard of, and only ends engagements. -/
theorem stepAttempt_knownOrStarted {r : Speculative × Scene} (hstep : f.stepAttempt me a s = some r) :
    (∀ b' ∈ r.1.attempts, ∃ b ∈ f.attempts, b.owner = b'.owner ∧ b.token = b'.token) ∧
      r.1.known = f.known := by
  have hgoTo : ∀ point, ∀ b' ∈ (f.attemptGoTo a point).attempts,
      ∃ b ∈ f.attempts, b.owner = b'.owner ∧ b.token = b'.token := by
    intro point b' hb'
    obtain ⟨b, hb, rfl⟩ := List.mem_map.mp hb'
    refine ⟨b, hb, ?_, ?_⟩
    · split <;> rfl
    · split <;> rfl
  have hexit : ∀ b' ∈ f.attempts.filter (·.serial != a.serial),
      ∃ b ∈ f.attempts, b.owner = b'.owner ∧ b.token = b'.token :=
    fun b' hb' => ⟨b', (List.mem_filter.mp hb').1, rfl, rfl⟩
  cases stepAttempt_attemptStep hstep with
  | @receives _ result _ _ _ =>
    cases result with
    | panicked => exact ⟨hexit, rfl⟩
    | _ => exact ⟨hgoTo _, rfl⟩
  | joins _ _ => exact ⟨fun b hb => ⟨b, hb, rfl, rfl⟩, rfl⟩
  | settles _ _ =>
    rcases settle_fst _ a _ s with hsettled | hsettled
    · rw [hsettled]
      exact ⟨hgoTo _, rfl⟩
    · rw [hsettled]
      exact ⟨hexit, rfl⟩
  | exits _ => exact ⟨hexit, rfl⟩
  | _ => exact ⟨hgoTo _, rfl⟩

theorem stepAttempt_providers (hids : f.states.ids.Nodup) {r : Speculative × Scene}
    (hstep : f.stepAttempt me a s = some r) : r.1.states.providers = f.states.providers := by
  obtain ⟨g, s'⟩ := r
  cases (stepAttempt_attempted hids hstep).1 with
  | settles hproviders _ _ => exact hproviders
  | _ => rfl

theorem stepAttempt_obtainmentAdvances (hids : f.states.ids.Nodup) (htracked : p ∈ f.states.providers)
    {r : Speculative × Scene} (hstep : f.stepAttempt me a s = some r) (hids' : r.1.states.ids.Nodup) :
    States.ObtainmentAdvances p f.states r.1.states := by
  cases stepAttempt_attemptStep hstep with
  | @receives _ result _ _ _ => cases result <;> exact .refl p _
  | @settles core guard _ _ =>
    rcases settle_fst { f with guard } a core s with hsettled | hsettled
    · rw [hsettled]
      exact .refl p _
    · rw [hsettled] at hids' ⊢
      exact (keepsObtainment_applyOutcome hids a core).obtainmentAdvances hids' htracked
  | _ => exact .refl p _

/-! ## A provider that comes and goes -/

theorem TellsApart.of_unknown (howned : f.working ⊆ f.owners)
    (hunknown : ∀ x ∈ f.known, x.provider ≠ p) : f.TellsApart p s where
  owned := howned
  tracked x hx hxp := absurd hxp (hunknown x hx)
  apart number := by
    have hnone : f.known.countP (fun x => x.asks == (p, number)) = 0 :=
      List.countP_eq_zero.mpr fun x hx hasks => hunknown x hx (Prod.mk.inj (eq_of_beq hasks)).1
    rw [hnone]
    exact Nat.zero_le _
  awaited a ha hap _ := by
    have howner : a.owner ∈ f.known := List.mem_append_left _ (howned (List.mem_map_of_mem ha))
    exact absurd hap (hunknown a.owner howner)

/-- While the provider is tracked the attempts on it are told apart, and while it is not they are all
cancelled. -/
structure KeepsApart (p : ProviderRef) (s : Scene) (f : Speculative) : Prop where
  apart : p ∈ f.states.providers → f.TellsApart p s
  cancelled : p ∉ f.states.providers →
    ∀ a ∈ f.attempts, a.provider = p → s.isCancelled a.token = true

/-- Nothing but time passes; the sink and the guard of the obtainments tell no attempts apart. -/
theorem KeepsApart.later (h : f.KeepsApart p s) (hprecedes : s.Precedes s') (sink : Trace.Sink)
    (guard : Guard Task) : ({ f with sink, guard } : Speculative).KeepsApart p s' := by
  refine ⟨fun htracked => ?_, fun huntracked a ha hap => ?_⟩
  · have hlater := (h.apart htracked).later hprecedes
    exact ⟨hlater.owned, hlater.tracked, hlater.apart, hlater.awaited⟩
  · exact hprecedes.isCancelled (h.cancelled huntracked a ha hap)

/-- On one provider only one attempt is not cancelled. -/
theorem KeepsApart.eq_of_not_isCancelled (h : f.KeepsApart p s) {bound : Nat} (hsound : f.IsSound bound)
    {b : Attempt} (ha : a ∈ f.attempts) (hap : a.provider = p) (hawanted : s.isCancelled a.token = false)
    (hb : b ∈ f.attempts) (hbp : b.provider = p) (hbwanted : s.isCancelled b.token = false) : a = b := by
  by_cases htracked : p ∈ f.states.providers
  · have htells := h.apart htracked
    exact htells.eq_of_not_isCancelled hsound.ids hsound.serials ha hap hawanted hb hbp hbwanted
  · exact absurd ((h.cancelled htracked a ha hap).symm.trans hawanted) (by simp)

/-- Every step of the loop keeps them apart, unless the provider comes to be tracked while the outcome of an
attempt on it may still come in. -/
theorem step_keepsApart {seen : List Owner} (hsound : f.IsSound s.nextSerial) (h : f.KeepsApart p s)
    (hover : f.point.isReleased = false → f.Oversees seen s.nextSerial)
    {r : Speculative × Scene} (hstep : f.step chance me s = some r) (hprecedes : s.Precedes r.2)
    (hafresh : p ∉ f.states.providers → p ∈ r.1.states.providers → ∀ x ∈ f.known, x.provider ≠ p) :
    r.1.KeepsApart p r.2 := by
  have hids := hsound.ids
  have hsince := step_knownOrStarted hsound hstep
  refine ⟨fun htracked' => ?_, fun hdropped a ha hap => ?_⟩
  · have htells : f.TellsApart p s := by
      by_cases htracked : p ∈ f.states.providers
      · exact h.apart htracked
      · rcases step_tracks hids hstep with hsame | ⟨hpoint, -⟩
        · exact absurd (hsame ▸ htracked') htracked
        · have howned := (hover (by rw [hpoint]; rfl)).owned
          exact .of_unknown howned (hafresh htracked htracked')
    exact step_tellsApart hids htells (fun hpoint => hover (by rw [hpoint]; rfl))
      (fun _ => htracked') hstep hprecedes
  · rcases hsince.attempts a ha with ha | hbegun
    · by_cases htracked : p ∈ f.states.providers
      · rcases Bool.eq_false_or_eq_true (s.isCancelled a.token) with hcancelled | hwanted
        · exact hprecedes.isCancelled hcancelled
        · -- Its obtainment was dropped while the attempt was in flight.
          obtain ⟨o, ho, hop, hphase⟩ := (h.apart htracked).awaited a ha hap hwanted
          rcases step_tracks hids hstep with hsame | ⟨-, guard, rfl⟩
          · exact absurd (hsame ▸ htracked) hdropped
          · exact isCancelled_of_dropped (f := { f with guard }) ho (hop ▸ hdropped)
              (by simp [Obtainment.inFlight?, hphase])
      · exact hprecedes.isCancelled (h.cancelled htracked a ha hap)
    · obtain ⟨o, ho, hop, -, -⟩ := hbegun.engaged
      exact absurd (List.mem_map.mpr ⟨o, ho, hop.trans hap⟩) hdropped

/-- Every step of an attempt keeps them apart. -/
theorem stepAttempt_keepsApart (hsound : f.IsSound s.nextSerial) (h : f.KeepsApart p s)
    (ha : a ∈ f.attempts) {r : Speculative × Scene} (hstep : f.stepAttempt me a s = some r)
    (hprecedes : s.Precedes r.2) : r.1.KeepsApart p r.2 := by
  have hproviders := stepAttempt_providers hsound.ids hstep
  refine ⟨fun htracked => ?_, fun huntracked b' hb' hbp => ?_⟩
  · exact stepAttempt_tellsApart hsound.ids (h.apart (hproviders ▸ htracked)) ha hstep hprecedes
  · obtain ⟨b, hb, howner, htoken⟩ := (stepAttempt_knownOrStarted hstep).1 b' hb'
    have hprovider : b.provider = b'.provider := congrArg Owner.provider howner
    rw [← htoken]
    exact hprecedes.isCancelled (h.cancelled (hproviders ▸ huntracked) b hb (hprovider.trans hbp))

end Speculative

end CoreBroker
