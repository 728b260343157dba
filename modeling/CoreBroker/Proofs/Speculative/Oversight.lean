import CoreBroker.Proofs.Speculative.Outcomes
import CoreBroker.Proofs.Speculative.Rebalancing
set_option autoImplicit false

/-!
# Who answers for a provider that is asked

Until it gives everything up, a fulfiller knows of every attempt for whom it works until it has taken
notice of its exit.  Every provider that is asked is asked by an attempt that has not reported yet, or by
one that has panicked and whose panic has not been recorded yet.  What the loop knows of an attempt never
changes, so it can be compared with the attempts that were seen at work earlier.
-/

namespace CoreBroker

/-- The provider that is asked, and the number of the attempt that asks it. -/
def Owner.asks (owner : Owner) : ProviderRef × Nat := (owner.provider, owner.number)

namespace Speculative

variable {chance : Chance} {f f' : Speculative} {s s' : Scene} {a : Attempt} {me bound : Nat}
  {seen : List Owner}

/-- Whom the attempts under way work for. -/
def working (f : Speculative) : List Owner := f.attempts.map (·.owner)

/-- Whom the attempts work for that have not reported yet. -/
def unreported (f : Speculative) : List Owner :=
  (f.attempts.filter (·.point != .disposing)).map (·.owner)

/-- Somebody answers for a provider that is asked. -/
inductive Answers (f : Speculative) (x : ProviderRef × Nat) : Prop
  /-- An attempt that has not reported yet. -/
  | working {owner : Owner} (hmem : owner ∈ f.unreported) (hasks : owner.asks = x)
  /-- The loop has to take notice that the attempt has panicked. -/
  | panicked {owner : Owner} (hmem : owner ∈ f.owners) (hasks : owner.asks = x)
      (hexit : ⟨owner.serial, true⟩ ∈ f.exits)
  /-- The loop is about to record that the attempt has panicked. -/
  | recording {owner : Owner} (hpoint : f.point = .recording owner) (hasks : owner.asks = x)

/-- The owners are those of the attempts that are under way or whose exit was not noticed, and somebody
answers for every provider that is asked.  Those `seen` earlier are owners unchanged, if at all. -/
structure Oversees (seen : List Owner) (bound : Nat) (f : Speculative) : Prop where
  serials : (f.owners.map (·.serial)).Perm (f.working.map (·.serial) ++ f.exits.map (·.serial))
  nodup : (f.owners.map (·.serial)).Nodup
  bounded : ∀ owner ∈ f.owners, owner.serial < bound
  owned : f.working ⊆ f.owners
  answered : ∀ x ∈ f.states.asked, f.Answers x
  earlier : ∀ known ∈ seen, known.serial < bound
  unchanged : ∀ owner ∈ f.owners, ∀ known ∈ seen, owner.serial = known.serial → owner = known

theorem Oversees.mono (h : f.Oversees seen bound) {bound' : Nat} (hle : bound ≤ bound') :
    f.Oversees seen bound' :=
  { h with
    bounded := fun owner howner => Nat.lt_of_lt_of_le (h.bounded owner howner) hle
    earlier := fun known hknown => Nat.lt_of_lt_of_le (h.earlier known hknown) hle }

/-- Those whom the attempts work for now are seen. -/
theorem Oversees.sees (h : f.Oversees seen bound) : f.Oversees f.working bound :=
  { h with
    earlier := fun known hknown => h.bounded known (h.owned hknown)
    unchanged := fun _ howner _ hknown hserial =>
      List.inj_on_of_nodup_map h.nodup howner (h.owned hknown) hserial }

/-- The attempts go on, and at most some providers are not asked any more. -/
theorem Oversees.along (h : f.Oversees seen bound) (hworking : f'.working = f.working)
    (hexits : f'.exits = f.exits) (howners : f'.owners = f.owners)
    (hasked : ∀ x ∈ f'.states.asked, x ∈ f.states.asked ∧
      (∀ owner ∈ f.unreported, owner.asks = x → owner ∈ f'.unreported) ∧
      ∀ owner, f.point = .recording owner → owner.asks = x → f'.point = .recording owner) :
    f'.Oversees seen bound where
  serials := by
    rw [hworking, hexits, howners]
    exact h.serials
  nodup := howners ▸ h.nodup
  bounded := howners ▸ h.bounded
  owned := by
    rw [hworking, howners]
    exact h.owned
  answered x hx := by
    obtain ⟨hbefore, hunreported, hrecording⟩ := hasked x hx
    cases h.answered x hbefore with
    | working hmem hasks => exact .working (hunreported _ hmem hasks) hasks
    | panicked hmem hasks hexit => exact .panicked (howners ▸ hmem) hasks (hexits ▸ hexit)
    | recording hpoint hasks => exact .recording (hrecording _ hpoint hasks) hasks
  earlier := h.earlier
  unchanged := howners ▸ h.unchanged

theorem Oversees.withGuard (h : f.Oversees seen bound) (guard : Guard Task) :
    ({ f with guard } : Speculative).Oversees seen bound :=
  h.along rfl rfl rfl fun _ hx => ⟨hx, fun _ hmem _ => hmem, fun _ hpoint _ => hpoint⟩

/-! ## Attempts -/

theorem working_attemptGoTo (f : Speculative) (a : Attempt) (point : AttemptPoint) :
    (f.attemptGoTo a point).working = f.working := by
  simp only [working, attemptGoTo, modifyAttempt, List.map_map]
  refine List.map_congr_left fun b _ => ?_
  simp only [Function.comp_apply]
  split <;> rfl

theorem mem_unreported {owner : Owner} :
    owner ∈ f.unreported ↔ ∃ b ∈ f.attempts, b.point ≠ .disposing ∧ b.owner = owner := by
  simp only [unreported, List.mem_map, List.mem_filter, bne_iff_ne, and_assoc]

/-- Wherever an attempt goes, the others stay where they are, and so it answers unless it has reported. -/
theorem mem_unreported_attemptGoTo {point : AttemptPoint} {owner : Owner}
    (hmem : owner ∈ f.unreported) (hpoint : point ≠ .disposing ∨ owner.serial ≠ a.serial) :
    owner ∈ (f.attemptGoTo a point).unreported := by
  obtain ⟨b, hb, hunreported, rfl⟩ := mem_unreported.mp hmem
  refine mem_unreported.mpr ⟨_, List.mem_map_of_mem hb, ?_⟩
  by_cases hthis : b.serial = a.serial
  · rw [if_pos (by simpa using hthis)]
    exact ⟨hpoint.resolve_right fun hne => hne hthis, rfl⟩
  · rw [if_neg (by simpa using hthis)]
    exact ⟨hunreported, rfl⟩

theorem Oversees.attemptGoTo (h : f.Oversees seen bound) {point : AttemptPoint}
    (hpoint : point ≠ .disposing) : (f.attemptGoTo a point).Oversees seen bound :=
  h.along (working_attemptGoTo f a point) rfl rfl fun _ hx =>
    ⟨hx, fun _ hmem _ => mem_unreported_attemptGoTo hmem (.inl hpoint), fun _ hpoint _ => hpoint⟩

/-- An attempt may go on to dispose of its core when it is not asking any more. -/
theorem Oversees.reports (h : f.Oversees seen bound) (hserials : (f.attempts.map (·.serial)).Nodup)
    (ha : a ∈ f.attempts) (hasked : ∀ x ∈ f.states.asked, a.owner.asks ≠ x) :
    (f.attemptGoTo a .disposing).Oversees seen bound := by
  refine h.along (working_attemptGoTo f a _) rfl rfl fun x hx =>
    ⟨hx, fun owner hmem hasks => mem_unreported_attemptGoTo hmem (.inr fun hthis => ?_),
      fun _ hpoint _ => hpoint⟩
  obtain ⟨b, hb, -, rfl⟩ := mem_unreported.mp hmem
  have hba : b = a := List.inj_on_of_nodup_map hserials hb ha hthis
  exact hasked x hx (hba ▸ hasks)

/-- An attempt may exit when it has reported or is not asking any more, or by a panic. -/
theorem Oversees.exitAttempt (h : f.Oversees seen bound) (hserials : (f.attempts.map (·.serial)).Nodup)
    (ha : a ∈ f.attempts) {isPanic : Bool}
    (hasked : a.point = .disposing ∨ isPanic = true ∨ ∀ x ∈ f.states.asked, a.owner.asks ≠ x) :
    (f.exitAttempt a isPanic).Oversees seen bound where
  serials := by
    have hleft := ((perm_cons_remove hserials ha).map Attempt.owner).map Owner.serial
    refine h.serials.trans ((hleft.append_right _).trans ?_)
    simp only [working, Speculative.exitAttempt, List.map_cons, List.map_append, List.map_nil,
      List.cons_append, ← List.append_assoc]
    exact (List.perm_append_singleton _ _).symm
  nodup := h.nodup
  bounded := h.bounded
  earlier := h.earlier
  unchanged := h.unchanged
  owned := by
    have hleft : (f.exitAttempt a isPanic).attempts ⊆ f.attempts := List.filter_sublist.subset
    exact List.Subset.trans (List.map_subset _ hleft) h.owned
  answered x hx := by
    cases h.answered x hx with
    | working hmem hasks =>
      obtain ⟨b, hb, hunreported, rfl⟩ := mem_unreported.mp hmem
      -- Either this is the attempt that exits, and it must have panicked, or it goes on.
      by_cases hthis : b.serial = a.serial
      · have hba : b = a := List.inj_on_of_nodup_map hserials hb ha hthis
        rw [hba] at hasks hunreported
        have hpanic : isPanic = true :=
          (hasked.resolve_left hunreported).resolve_right fun hnot => hnot x hx hasks
        refine .panicked (h.owned (List.mem_map_of_mem ha)) hasks (List.mem_append_right _ ?_)
        rw [hpanic]
        exact List.mem_singleton_self _
      · refine .working (mem_unreported.mpr ⟨b, List.mem_filter.mpr ⟨hb, ?_⟩, hunreported, rfl⟩) hasks
        simpa using hthis
    | panicked hmem hasks hexit => exact .panicked hmem hasks (List.mem_append_left _ hexit)
    | recording hpoint hasks => exact .recording hpoint hasks

/-- An attempt that reports is not asking any more. -/
theorem settle_oversees (hids : f.states.ids.Nodup) (hserials : (f.attempts.map (·.serial)).Nodup)
    (h : f.Oversees seen bound) (ha : a ∈ f.attempts) (core : Option Core) (s : Scene) :
    (f.settle a core s).1.Oversees seen bound := by
  have hends := applyOutcome_takesOutcome f.states a core
  unfold settle
  generalize applyOutcome f.states a core = outcome at *
  obtain ⟨states, stale⟩ := outcome
  have hfewer : ({ f with states }.leave).Oversees seen bound :=
    h.along rfl rfl rfl fun x hx =>
      ⟨(hends.of_mem_asked hids hx).1, fun _ hmem _ => hmem, fun _ hpoint _ => hpoint⟩
  have hreported : ∀ x ∈ ({ f with states }.leave).states.asked, a.owner.asks ≠ x :=
    fun x hx hthis => (hends.of_mem_asked hids hx).2 hthis.symm
  cases stale with
  | none => exact hfewer.exitAttempt hserials ha (.inr (.inr hreported))
  | some late => exact hfewer.reports hserials ha hreported

/-- Every step of an attempt leaves somebody to answer. -/
theorem stepAttempt_oversees (hids : f.states.ids.Nodup)
    (hserials : (f.attempts.map (·.serial)).Nodup) (h : f.Oversees seen bound) (ha : a ∈ f.attempts)
    {r : Speculative × Scene} (hstep : f.stepAttempt me a s = some r) : r.1.Oversees seen bound := by
  cases stepAttempt_attemptStep hstep with
  | withdraws _ _ => exact h.attemptGoTo AttemptPoint.noConfusion
  | calls _ _ => exact h.attemptGoTo AttemptPoint.noConfusion
  | @receives _ result _ _ _ =>
    cases result with
    | core core => exact h.attemptGoTo AttemptPoint.noConfusion
    | failed chain => exact h.attemptGoTo AttemptPoint.noConfusion
    | panicked => exact h.exitAttempt hserials ha (.inr (.inl rfl))
  | resumes _ => exact h.attemptGoTo AttemptPoint.noConfusion
  | joins _ _ => exact h.withGuard _
  | @settles core guard _ _ =>
    exact settle_oversees (f := { f with guard }) hids hserials (h.withGuard guard) ha core s
  | exits hpoint => exact h.exitAttempt hserials ha (.inl hpoint)

/-! ## Passes -/

/-- The attempts are left alone, and at most some providers are not asked any more. -/
structure AsksNoMore (f f' : Speculative) : Prop where
  attempts : f'.attempts = f.attempts
  exits : f'.exits = f.exits
  owners : f'.owners = f.owners
  asked : f'.states.asked ⊆ f.states.asked

theorem AsksNoMore.trans {f₁ f₂ f₃ : Speculative} (h : f₁.AsksNoMore f₂) (h' : f₂.AsksNoMore f₃) :
    f₁.AsksNoMore f₃ :=
  ⟨h'.attempts.trans h.attempts, h'.exits.trans h.exits, h'.owners.trans h.owners,
    List.Subset.trans h'.asked h.asked⟩

theorem Oversees.asksNoMore (h : f.Oversees seen bound) (hless : f.AsksNoMore f')
    (hpoint : ∀ owner, f.point ≠ .recording owner) : f'.Oversees seen bound :=
  h.along (congrArg (List.map Attempt.owner) hless.attempts) hless.exits hless.owners fun _ hx =>
    ⟨hless.asked hx, fun _ hmem _ => by rwa [unreported, hless.attempts],
      fun owner hrecording => absurd hrecording (hpoint owner)⟩

theorem asksNoMore_goTo (f : Speculative) (point : SpeculativePoint) : f.AsksNoMore (f.goTo point) :=
  ⟨rfl, rfl, rfl, List.Subset.refl _⟩

theorem asksNoMore_putBack (f : Speculative) (leftovers : List Ready) :
    f.AsksNoMore (f.putBack leftovers) :=
  ⟨rfl, rfl, rfl, States.asked_restoreCores_subset leftovers f.states⟩

theorem asksNoMore_rests (f : Speculative) (point : SpeculativePoint) :
    f.AsksNoMore (f.leave.goTo point) :=
  ⟨rfl, rfl, rfl, List.Subset.refl _⟩

theorem turn_asksNoMore (f : Speculative) (s : Scene) : f.AsksNoMore (f.turn s).1 := by
  unfold turn
  split
  · exact asksNoMore_goTo f _
  · exact asksNoMore_goTo f _

theorem nextHolder_asksNoMore (pending : Nat) (ready : List Ready) (discarded : List Core) :
    ∀ (holders : List String) (f : Speculative) (s : Scene),
      f.AsksNoMore (f.nextHolder pending ready discarded s holders).1 := by
  intro holders
  induction holders with
  | nil => exact fun f _ => asksNoMore_goTo f _
  | cons id rest ih =>
    intro f s
    unfold nextHolder
    split
    · exact asksNoMore_goTo f _
    · cases htake : f.states.takeCore? id with
      | none => exact ih f s
      | some taken => exact ⟨rfl, rfl, rfl, States.asked_takeCore?_subset htake⟩

theorem count_asksNoMore (chance : Chance) (f : Speculative) (discarded : List Core) (board : Board)
    (s : Scene) : f.AsksNoMore (f.count chance discarded board s).1 := by
  unfold count
  simp only
  split
  · exact asksNoMore_goTo f _
  · exact nextHolder_asksNoMore _ _ _ _ _ _

theorem judge_asksNoMore (f : Speculative) (pending : Nat) (ready : List Ready) (held : Ready)
    (holders : List String) (discarded : List Core) (isAlive : Bool) (s : Scene) :
    f.AsksNoMore (f.judge pending ready held holders discarded isAlive s).1 := by
  obtain ⟨ready', discarded', s', -, heq⟩ :=
    judge_eq_nextHolder f pending ready held holders discarded isAlive s
  rw [heq]
  exact nextHolder_asksNoMore pending ready' discarded' holders f s'

theorem GivesUp.asksNoMore {discarded discarded' : List Core} {gone : List (Obtainment Core)}
    (h : GivesUp f s discarded gone f' s' discarded') : f.AsksNoMore f' := by
  rw [h.fulfiller]
  refine ⟨rfl, rfl, rfl, fun x hx => ?_⟩
  obtain ⟨o', ho', hasked⟩ := States.mem_asked.mp hx
  obtain ⟨o, ho, rfl⟩ := List.mem_map.mp ho'
  split at hasked
  · exact absurd hasked (by simp [Obtainment.release, Obtainment.asked?])
  · exact States.mem_asked.mpr ⟨o, ho, hasked⟩

/-- Attempts with new serials answer for the providers that they ask. -/
theorem Oversees.starts {news : List Attempt} (hids : f.states.ids.Nodup)
    (h : f.Oversees seen s.nextSerial) (hstarts : Starts me f s news f' s') :
    f'.Oversees seen s'.nextSerial := by
  have hserial : ∀ a ∈ news, s.nextSerial ≤ a.serial ∧ a.serial < s'.nextSerial := fun a ha => by
    obtain ⟨_, _, _, hopens⟩ := hstarts.opens a ha
    exact hopens.serial
  have hnew : ∀ owner ∈ news.map (·.owner), s.nextSerial ≤ owner.serial ∧ owner.serial < s'.nextSerial :=
    fun owner howner => by
      obtain ⟨a, ha, rfl⟩ := List.mem_map.mp howner
      exact hserial a ha
  have hnews : (news.map (·.owner)).map (·.serial) = news.map (·.serial) := by
    rw [List.map_map]
    rfl
  have hworking : f'.working = f.working ++ news.map (·.owner) := by
    rw [working, hstarts.fulfiller, List.map_append]
    rfl
  have hattempts : f'.attempts = f.attempts ++ news := by rw [hstarts.fulfiller]
  have howners : f'.owners = f.owners ++ news.map (·.owner) := by rw [hstarts.fulfiller]
  have hexits : f'.exits = f.exits := by rw [hstarts.fulfiller]
  refine ⟨?_, ?_, fun owner howner => ?_, ?_, fun x hx => ?_, fun known hknown => ?_,
    fun owner howner known hknown heq => ?_⟩
  · rw [hworking, howners, hexits, List.map_append, List.map_append, List.append_assoc]
    have hserials := h.serials.append_right ((news.map (·.owner)).map (·.serial))
    rw [List.append_assoc] at hserials
    exact hserials.trans (List.perm_append_comm.append_left _)
  · rw [howners, List.map_append, hnews, List.nodup_append]
    refine ⟨h.nodup, hstarts.serials, fun x hx y hy hxy => ?_⟩
    obtain ⟨owner, howner, rfl⟩ := List.mem_map.mp hx
    obtain ⟨a, ha, rfl⟩ := List.mem_map.mp hy
    exact Nat.lt_irrefl _ (Nat.lt_of_lt_of_le (hxy ▸ h.bounded owner howner) (hserial a ha).1)
  · rw [howners] at howner
    rcases List.mem_append.mp howner with howner | howner
    · exact Nat.lt_of_lt_of_le (h.bounded owner howner) hstarts.later
    · exact (hnew owner howner).2
  · rw [hworking, howners]
    exact List.append_subset.mpr ⟨List.subset_append_of_subset_left _ h.owned,
      List.subset_append_right _ _⟩
  · rw [hstarts.states] at hx
    obtain ⟨o', ho', hasked⟩ := States.mem_asked.mp hx
    obtain ⟨o, ho, rfl⟩ := List.mem_map.mp ho'
    -- Either an attempt of `news` asks, or whoever asked before goes on to do so.
    by_cases hmem : o.provider.id ∈ news.map (·.provider.id)
    · obtain ⟨a, ha, -, hopens, hresumed⟩ := hstarts.opened hids ho hmem
      rw [hresumed, Obtainment.asked?, Option.some.injEq, ← hopens.provider] at hasked
      have hasks : a.owner.asks = x := hasked
      have hcalling : a.point ≠ .disposing := by
        obtain ⟨ticket, hpoint⟩ := hopens.point
        simp [hpoint]
      exact .working (mem_unreported.mpr ⟨a, hattempts ▸ List.mem_append_right _ ha, hcalling, rfl⟩)
        hasks
    · rw [Obtainment.resumed_of_not_mem hmem] at hasked
      cases h.answered x (States.mem_asked.mpr ⟨o, ho, hasked⟩) with
      | working hmem hasks =>
        obtain ⟨b, hb, hunreported, rfl⟩ := mem_unreported.mp hmem
        exact .working (mem_unreported.mpr
          ⟨b, hattempts ▸ List.mem_append_left _ hb, hunreported, rfl⟩) hasks
      | panicked hmem hasks hexit =>
        exact .panicked (howners ▸ List.mem_append_left _ hmem) hasks (hexits ▸ hexit)
      | recording hpoint hasks => exact .recording (by rw [hstarts.fulfiller, ← hpoint]) hasks
  · exact Nat.lt_of_lt_of_le (h.earlier known hknown) hstarts.later
  · rw [howners] at howner
    rcases List.mem_append.mp howner with howner | howner
    · exact h.unchanged owner howner known hknown heq
    · have hlt := Nat.lt_of_lt_of_le (h.earlier known hknown) (hnew owner howner).1
      exact absurd heq (Nat.ne_of_gt hlt)

theorem rebalance_oversees (chance : Chance) (h : f.Oversees seen s.nextSerial)
    (hids : f.states.ids.Nodup) (hpoint : ∀ owner, f.point ≠ .recording owner) (me pending : Nat)
    (discarded : List Core) :
    (f.rebalance chance me s pending discarded).1.Oversees seen
        (f.rebalance chance me s pending discarded).2.1.nextSerial := by
  rcases rebalance_starts_or_givesUp chance hids me s pending discarded with
    ⟨-, -, news, -, hstarts⟩ | ⟨-, gone, -, hgivesUp⟩
  · exact h.starts hids hstarts
  · exact (h.asksNoMore hgivesUp.asksNoMore hpoint).mono
      (rebalance_rebalanceStep chance hids me s pending discarded).aside.serial

/-- At the end of a pass somebody answers for every provider that is asked. -/
theorem finishPass_oversees (chance : Chance) (h : f.Oversees seen s.nextSerial)
    (hids : f.states.ids.Nodup) (hpoint : ∀ owner, f.point ≠ .recording owner) (me : Nat)
    (ready : List Ready) (discarded : List Core) (board : Board) :
    (f.finishPass chance me ready discarded board s).1.Oversees seen
      (f.finishPass chance me ready discarded board s).2.nextSerial := by
  obtain ⟨events, hassigns⟩ := f.assign_assigns
    ((board.registry.candidates f.constraint).map (·.id)) ready s
  rw [finishPass_eq]
  generalize f.assign s ((board.registry.candidates f.constraint).map (·.id)) ready = matched at *
  have hserial : s.nextSerial ≤ (matched.scene.leave f.board).nextSerial :=
    (hassigns.acts.aside (Scene.aside_leave _ f.board)).serial_le
  have hoversees : (f.resize chance me discarded matched).1.Oversees seen
      (f.resize chance me discarded matched).2.1.nextSerial :=
    rebalance_oversees chance
      ((h.asksNoMore (asksNoMore_putBack f matched.leftovers) hpoint).mono hserial)
      (putBack_ids hids matched.leftovers) hpoint me matched.pending _
  have hthere : ∀ owner, (f.resize chance me discarded matched).1.point ≠ .recording owner := by
    rw [resize_same chance me discarded matched hids]
    exact hpoint
  generalize f.resize chance me discarded matched = sized at *
  obtain ⟨g, s₁, gone⟩ := sized
  exact (hoversees.asksNoMore (asksNoMore_rests g _) hthere).mono
    (Scene.acts_disposeCores (may_disposed f.subscription) (gone.take 1) s₁).serial_le

/-! ## The loop -/

theorem Oversees.owner_of_exit {exit : Exit} (h : f.Oversees seen bound) (hexit : exit ∈ f.exits) :
    ∃ owner ∈ f.owners, owner.serial = exit.serial :=
  List.mem_map.mp (h.serials.mem_iff.mpr (List.mem_append_right _ (List.mem_map_of_mem hexit)))

/-- The owner of an exit can be let go of; if it was a panic, the loop has to be about to record it. -/
theorem Oversees.letGo {exit : Exit} {exits : List Exit} {owner : Owner} (h : f.Oversees seen bound)
    (hexits : f.exits = exit :: exits) (howner : owner ∈ f.owners)
    (hserial : owner.serial = exit.serial) (hpoint : ∀ owner, f.point ≠ .recording owner)
    {point : SpeculativePoint} (hpanic : exit.isPanic = true → point = .recording owner) :
    ({ f with exits, owners := f.owners.filter (·.serial != exit.serial), point } :
      Speculative).Oversees seen bound := by
  have hserials := h.serials
  have hnodup := hserials.nodup_iff.mp h.nodup
  rw [hexits, List.map_cons] at hserials
  have hleft : ∀ other ∈ f.owners, other.serial ≠ exit.serial →
      other ∈ f.owners.filter (·.serial != exit.serial) := fun other hother hne =>
    List.mem_filter.mpr ⟨hother, bne_iff_ne.mpr hne⟩
  have hworking : ∀ other ∈ f.working, other.serial ≠ exit.serial := fun other hother heq => by
    refine (List.nodup_append.mp hnodup).2.2 _ (List.mem_map_of_mem hother) exit.serial ?_ heq
    rw [hexits]
    exact List.mem_cons_self
  refine ⟨?_, ?_, fun other hother => h.bounded other (List.mem_filter.mp hother).1,
    fun other hother => hleft other (h.owned hother) (hworking other hother), fun x hx => ?_,
    h.earlier, fun other hother => h.unchanged other (List.mem_filter.mp hother).1⟩
  · have hothers := ((perm_cons_remove h.nodup howner).map (·.serial)).symm.trans
      (hserials.trans List.perm_middle)
    rw [List.map_cons, hserial] at hothers
    exact hothers.cons_inv
  · exact h.nodup.sublist (List.filter_sublist.map _)
  · cases h.answered x hx with
    | working hmem hasks => exact .working hmem hasks
    | @panicked other hmem hasks hexit =>
      rw [hexits] at hexit hnodup
      -- The panic is noticed just now and goes into the point, or its exit is still in the queue.
      rcases List.mem_cons.mp hexit with hthis | hrest
      · have hsame : other = owner := List.inj_on_of_nodup_map h.nodup hmem howner
          (by rw [hserial, ← hthis])
        exact .recording (hpanic (by rw [← hthis])) (hsame ▸ hasks)
      · refine .panicked (hleft other hmem fun heq => ?_) hasks hrest
        rw [List.map_cons] at hnodup
        refine (List.nodup_cons.mp (List.nodup_append.mp hnodup).2.1).1 (heq ▸ ?_)
        exact List.mem_map_of_mem hrest
    | recording hrecording _ => exact absurd hrecording (hpoint _)

theorem noticeExit_oversees {exit : Exit} {exits : List Exit} (h : f.Oversees seen bound)
    (hexits : f.exits = exit :: exits) (hpoint : ∀ owner, f.point ≠ .recording owner) (s : Scene) :
    (({ f with exits } : Speculative).noticeExit exit s).1.Oversees seen bound := by
  obtain ⟨owner, howner, hserial⟩ := h.owner_of_exit (hexits ▸ List.mem_cons_self)
  have hfound := find?_key h.nodup howner
  rw [hserial] at hfound
  unfold noticeExit
  simp only [hfound]
  split
  · exact h.letGo hexits howner hserial hpoint fun _ => rfl
  · rename_i hcalm
    have hgone : ({ f with exits, owners := f.owners.filter (·.serial != exit.serial) } :
        Speculative).Oversees seen bound :=
      h.letGo hexits howner hserial hpoint fun hpanic => absurd hpanic hcalm
    exact hgone.asksNoMore (turn_asksNoMore _ s) hpoint

/-- Once its panic is recorded an attempt is not asking any more. -/
theorem recordPanic_oversees {owner : Owner} (hids : f.states.ids.Nodup) (h : f.Oversees seen bound)
    (hpoint : f.point = .recording owner) (s : Scene) :
    (f.recordPanic owner s).1.Oversees seen bound := by
  have hends := recordPanic_takesOutcome f owner s
  refine h.along rfl rfl rfl fun x hx => ?_
  obtain ⟨hasked, hne⟩ := hends.of_mem_asked hids hx
  refine ⟨hasked, fun _ hmem _ => hmem, fun other hother hasks => ?_⟩
  rw [hpoint] at hother
  cases hother
  exact absurd hasks.symm hne

/-- Every step of the loop that does not give everything up leaves somebody to answer. -/
theorem step_oversees (hids : f.states.ids.Nodup) (h : f.Oversees seen s.nextSerial)
    {r : Speculative × Scene} (hstep : f.step chance me s = some r)
    (hserial : s.nextSerial ≤ r.2.nextSerial) (hreleased : r.1.point.isReleased = false) :
    r.1.Oversees seen r.2.nextSerial := by
  have hless : ∀ {point : SpeculativePoint} {g : Speculative}, f.point = point →
      (∀ owner, point ≠ .recording owner) → f.AsksNoMore g → g.Oversees seen s.nextSerial :=
    fun hpoint hnot hless => h.asksNoMore hless fun owner => hpoint ▸ hnot owner
  cases step_loopStep hstep with
  | joins hholder => exact h.withGuard _
  | waits haside => exact h.mono hserial
  | begins hpoint => exact (hless hpoint (by simp) (turn_asksNoMore f _)).mono hserial
  | @reconciles guard hpoint hholder =>
    have hfewer : f.AsksNoMore (({ f with guard } : Speculative).reconcile s).1 :=
      ⟨rfl, rfl, rfl, States.asked_sync_subset f.states _⟩
    exact (hless hpoint (by simp) hfewer).mono hserial
  | counts hpoint haside hboard =>
    exact (hless hpoint (by simp) (count_asksNoMore chance f _ _ _)).mono hserial
  | judges hpoint haside isAlive =>
    exact (hless hpoint (by simp) (judge_asksNoMore f _ _ _ _ _ _ _)).mono hserial
  | assigns hpoint haside hboard =>
    exact finishPass_oversees chance (h.mono haside.serial) hids (by simp [hpoint]) me _ _ _
  | @discards others hpoint =>
    rw [disposeInTurn_eq]
    exact (hless hpoint (by simp) (asksNoMore_goTo f _)).mono
      (Scene.acts_disposeCores (may_disposed f.subscription) (others.take 1) s).serial_le
  | stops hpoint _ => exact (hless hpoint (by simp) (asksNoMore_goTo f _)).mono hserial
  | notices hpoint hexits =>
    exact (noticeExit_oversees h hexits (by simp [hpoint]) _).mono hserial
  | wakes hpoint => exact (hless hpoint (by simp) (turn_asksNoMore f _)).mono hserial
  | @records guard owner hpoint =>
    exact (recordPanic_oversees (f := { f with guard }) hids (h.withGuard guard) hpoint s).mono hserial
  | resumes hpoint => exact (hless hpoint (by simp) (turn_asksNoMore f _)).mono hserial
  -- Here the loop gives everything up.
  | releases hpoint =>
    rw [releaseAll_eq] at hreleased
    exact absurd hreleased (by simp [goTo, SpeculativePoint.isReleased_inTurn])
  | @dissolves others hpoint =>
    rw [disposeInTurn_eq] at hreleased
    exact absurd hreleased (by simp [goTo, SpeculativePoint.isReleased_inTurn])
  | noticesLate hpoint _ =>
    exact absurd hreleased (by simp [noticeLateExit, hpoint, SpeculativePoint.isReleased])
  | finishes _ _ => exact absurd hreleased (by simp [finish, goTo, SpeculativePoint.isReleased])

end Speculative

end CoreBroker
