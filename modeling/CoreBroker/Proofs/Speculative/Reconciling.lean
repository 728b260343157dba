import CoreBroker.Proofs.Speculative.Sizing
set_option autoImplicit false

/-!
# In line with the roster

A pass begins by bringing the obtainments in line with the roster.  Whom an obtainment is about is a
matter of the provider object, where it is kept is a matter of the id: a provider that was replaced under
its id counts as one that has gone and one that has come.  Whatever is dropped is cancelled while it is in
flight or goes to the cores to be disposed of, and to do it twice is to do it once.
-/

namespace CoreBroker

namespace Token

/-- A token counts as fired when it was fired or one of its ancestors was. -/
theorem isCancelled_iff (t : Token) (fired : List Nat) :
    t.isCancelled fired = true ↔ ∃ n ∈ fired, n = t.number ∨ n ∈ t.ancestors := by
  simp only [isCancelled, Bool.or_eq_true, List.contains_iff_mem, List.any_eq_true]
  constructor
  · rintro (hown | ⟨n, hn, hfired⟩)
    · exact ⟨t.number, hown, .inl rfl⟩
    · exact ⟨n, hfired, .inr hn⟩
  · rintro ⟨n, hfired, rfl | hn⟩
    · exact .inl hfired
    · exact .inr ⟨n, hn, hfired⟩

end Token

namespace States

variable {κ : Type} {states : States κ} {current : List ProviderRef}

/-! ## Who has gone -/

/-- With one id to a provider object, an obtainment is registered when its provider object is. -/
theorem isRegistered_iff {o : Obtainment κ}
    (hserials : ∀ p ∈ current, o.provider.serial = p.serial → o.provider = p) :
    isRegistered current o = true ↔ o.provider ∈ current := by
  simp only [isRegistered, Obtainment.belongsTo, List.any_eq_true, beq_iff_eq]
  constructor
  · rintro ⟨p, hp, hserial⟩
    exact hserials p hp hserial ▸ hp
  · exact fun hmem => ⟨o.provider, hmem, rfl⟩

theorem departed_eq_filter
    (hserials : ∀ o ∈ states, ∀ p ∈ current, o.provider.serial = p.serial → o.provider = p) :
    states.departed current = states.filter (·.provider ∉ current) := by
  refine List.filter_congr fun o ho => ?_
  have hregistered := isRegistered_iff (hserials o ho)
  by_cases hmem : o.provider ∈ current
  · simp [hmem, hregistered.mpr hmem]
  · simp [hmem, Bool.eq_false_iff.mpr (mt hregistered.mp hmem)]

/-! ## Who stays and who comes -/

theorem get?_sync_of_registered (hids : states.ids.Nodup)
    (hcurrent : (current.map (·.id)).Nodup) {o : Obtainment κ} (ho : o ∈ states)
    (hmem : o.provider ∈ current) : (states.sync current).get? o.provider.id = some o := by
  have hregistered : isRegistered current o = true :=
    List.any_eq_true.mpr ⟨o.provider, hmem, beq_self_eq_true _⟩
  exact get?_of_mem (ids_sync_nodup hids hcurrent)
    (List.mem_append_left _ (List.mem_filter.mpr ⟨ho, hregistered⟩))

/-- A registered provider object that had no obtainment gets a fresh one, also where another object had
one under the same id. -/
theorem get?_sync_of_untracked (hids : states.ids.Nodup)
    (hcurrent : (current.map (·.id)).Nodup)
    (hserials : ∀ o ∈ states, ∀ p ∈ current, o.provider.serial = p.serial → o.provider = p)
    {p : ProviderRef} (hp : p ∈ current) (hnew : ∀ o ∈ states, o.provider ≠ p) :
    (states.sync current).get? p.id = some (.new p) := by
  have hnone : (states.remaining current).get? p.id = none := by
    refine List.find?_eq_none.mpr fun o ho hid => ?_
    obtain ⟨hmem, hregistered⟩ := List.mem_filter.mp ho
    have hthere := (isRegistered_iff (hserials o hmem)).mp hregistered
    exact hnew o hmem (List.inj_on_of_nodup_map hcurrent hthere hp (eq_of_beq hid))
  have hfresh : Obtainment.new p ∈ states.sync current := by
    refine List.mem_append_right _ (List.mem_map.mpr ⟨p, ?_, rfl⟩)
    exact List.mem_filter.mpr ⟨hp, by rw [hnone]; rfl⟩
  exact get?_of_mem (ids_sync_nodup hids hcurrent) hfresh

/-! ## Twice is once -/

theorem departed_sync (states : States κ) (current : List ProviderRef) :
    (states.sync current).departed current = [] := by
  refine List.filter_eq_nil_iff.mpr fun o ho => ?_
  rcases List.mem_append.mp ho with hold | hnew
  · simp [(List.mem_filter.mp hold).2]
  · obtain ⟨p, hp, rfl⟩ := List.mem_map.mp hnew
    have hregistered : isRegistered current (Obtainment.new p : Obtainment κ) = true :=
      List.any_eq_true.mpr ⟨p, (List.mem_filter.mp hp).1, beq_self_eq_true _⟩
    simp [hregistered]

theorem remaining_sync (states : States κ) (current : List ProviderRef) :
    (states.sync current).remaining current = states.sync current := by
  refine List.filter_eq_self.mpr fun o ho => ?_
  have hnone := List.filter_eq_nil_iff.mp (departed_sync states current) o ho
  simpa using hnone

theorem arrived_sync (states : States κ) (current : List ProviderRef) :
    (states.sync current).arrived current = [] := by
  refine List.filter_eq_nil_iff.mpr fun p hp => ?_
  rw [remaining_sync]
  have hfound : ((states.sync current).get? p.id).isSome := by
    rw [get?, List.find?_isSome]
    by_cases hthere : ((states.remaining current).get? p.id).isNone = true
    · exact ⟨.new p, List.mem_append_right _
        (List.mem_map.mpr ⟨p, List.mem_filter.mpr ⟨hp, hthere⟩, rfl⟩), beq_self_eq_true _⟩
    · obtain ⟨o, ho⟩ := Option.ne_none_iff_exists'.mp (mt Option.isNone_iff_eq_none.mpr hthere)
      obtain ⟨hmem, hid⟩ := get?_eq_some ho
      exact ⟨o, List.mem_append_left _ hmem, by simp [hid]⟩
  simp [Option.isNone_iff_eq_none, Option.isSome_iff_ne_none.mp hfound]

theorem sync_sync (states : States κ) (current : List ProviderRef) :
    (states.sync current).sync current = states.sync current := by
  rw [sync, remaining_sync, arrived_sync, List.map_nil, List.append_nil]

end States

namespace Speculative

variable {f : Speculative} {s s' : Scene}

/-! ## Tokens -/

theorem fired_dropProvider (f : Speculative) (s : Scene) (o : Obtainment Core) :
    (f.dropProvider s o).fired = o.inFlight?.toList.map (·.number) ++ s.fired := by
  have hsaid : Scene.LogsOnly (o.inFlight?.toList.foldl Scene.fire s) (f.dropProvider s o) :=
    (Scene.logsOnly_report _ _ _ _).trans (Scene.logsOnly_trace _ _ _ _)
  rw [hsaid.same (·.fired) fun _ _ _ => rfl]
  cases o.inFlight? with
  | none => rfl
  | some t => rfl

theorem fired_drops (f : Speculative) (gone : List (Obtainment Core)) (s : Scene) :
    (gone.foldl f.dropProvider s).fired =
      ((gone.filterMap (·.inFlight?)).map (·.number)).reverse ++ s.fired := by
  induction gone generalizing s with
  | nil => rfl
  | cons o gone ih =>
    rw [List.foldl_cons, ih, fired_dropProvider]
    cases hflight : o.inFlight? with
    | none => simp [hflight]
    | some t => simp [hflight]

theorem fired_tracks (f : Speculative) (come : List ProviderRef) (s : Scene) :
    (come.foldl f.trackProvider s).fired = s.fired := by
  induction come generalizing s with
  | nil => rfl
  | cons p come ih =>
    have hsaid : s.LogsOnly (f.trackProvider s p) :=
      (s.logsOnly_report _ _ _).trans (Scene.logsOnly_trace _ _ _ _)
    rw [List.foldl_cons, ih, hsaid.same (·.fired) fun _ _ _ => rfl]

/-- The tokens of the attempts on departed providers are fired, and no others. -/
theorem fired_reconcile (f : Speculative) (s : Scene) :
    (f.reconcile s).2.fired =
      (((f.states.departed (f.members s)).filterMap (·.inFlight?)).map (·.number)).reverse ++
        s.fired := by
  simp only [reconcile]
  rw [fired_tracks, fired_drops]
  rfl

/-! ## Twice is once -/

/-- What a fulfiller takes for the members of its roster is seen on the stage. -/
theorem members_of_stage (f : Speculative) (hstage : s'.stage = s.stage) :
    f.members s' = f.members s := by
  have hrosters : s'.rosters.map (·.members) = s.rosters.map (·.members) := by
    have hshown : ∀ s : Scene, s.rosters.map (·.members) = s.stage.rosters.map (·.1) := by
      intro s
      simp only [Scene.stage, List.map_map]
      rfl
    rw [hshown, hshown, hstage]
  have hfound := congrArg (·[f.roster]?) hrosters
  simp only [List.getElem?_map] at hfound
  rw [members, members, hfound]

/-- Once the obtainments are in line, there is nothing more to do: nothing is said, nothing is fired and
there is no core to be disposed of. -/
theorem reconcile_reconcile (f : Speculative) (s : Scene) :
    (f.reconcile s).1.reconcile (f.reconcile s).2 =
      ((f.reconcile s).1.goTo (.counting []), (f.reconcile s).2) := by
  have hmembers : (f.reconcile s).1.members (f.reconcile s).2 = f.members s :=
    (f.reconcile s).1.members_of_stage (f.aside_reconcile s).stage
  have hstates : (f.reconcile s).1.states = f.states.sync (f.members s) := rfl
  have hagain : ∀ (g : Speculative) (t : Scene), g.reconcile t =
      ({ g with states := g.states.sync (g.members t) }.goTo
        (.counting ((g.states.departed (g.members t)).filterMap Obtainment.heldCore?)),
        (g.states.arrived (g.members t)).foldl g.trackProvider
          ((g.states.departed (g.members t)).foldl g.dropProvider t)) := fun _ _ => rfl
  rw [hagain (f.reconcile s).1, hmembers, hstates, States.sync_sync, States.departed_sync,
    States.arrived_sync, ← hstates]
  rfl

/-! ## The whole of it -/

/-- After the obtainments have been brought in line with a roster there is one for each registered id, and
it is about the very provider object that is registered under that id.  An obtainment whose provider object
was registered is as it was, with its phase, its core and its number of attempts; a provider object that
had none has an idle one.  Of all others, the attempts in flight are cancelled, and with them the tokens
below theirs but no other, and every held core is among those to be disposed of, once.  To do it again for
the same roster changes nothing, and there is no core to be disposed of. -/
theorem reconcile_follows_roster {roster : Roster} (hids : f.states.ids.Nodup)
    (hroster : s.rosters[f.roster]? = some roster) (hmembers : (roster.members.map (·.id)).Nodup)
    (hserials : ∀ o ∈ f.states, ∀ p ∈ roster.members,
      o.provider.serial = p.serial → o.provider = p) :
    let r := f.reconcile s
    r.1.states.ids.Perm (roster.members.map (·.id)) ∧
      (∀ p ∈ roster.members, ∃ o, r.1.states.get? p.id = some o ∧ o.provider = p) ∧
      (∀ o ∈ f.states, o.provider ∈ roster.members → r.1.states.get? o.provider.id = some o) ∧
      (∀ p ∈ roster.members, (∀ o ∈ f.states, o.provider ≠ p) →
        r.1.states.get? p.id = some (.new p)) ∧
      (∀ t : Token, r.2.isCancelled t = true ↔ s.isCancelled t = true ∨
        ∃ o ∈ f.states, o.provider ∉ roster.members ∧
          ∃ t', o.inFlight? = some t' ∧ (t'.number = t.number ∨ t'.number ∈ t.ancestors)) ∧
      (∀ o ∈ f.states, o.provider ∉ roster.members → ∀ t, o.inFlight? = some t →
        r.2.isCancelled t = true) ∧
      r.1.point = .counting
        ((f.states.filter (·.provider ∉ roster.members)).filterMap (·.heldCore?)) ∧
      r.1.reconcile r.2 = (r.1.goTo (.counting []), r.2) := by
  have hcurrent : f.members s = roster.members := by
    simp [members, hroster]
  have hdeparted := States.departed_eq_filter hserials
  have hperm : (f.reconcile s).1.states.providers.Perm roster.members := by
    have hsynced := States.providers_sync_perm hids hmembers hserials
    have hstates : (f.reconcile s).1.states = f.states.sync (f.members s) := rfl
    rwa [hstates, hcurrent]
  have hcancelled : ∀ t : Token, (f.reconcile s).2.isCancelled t = true ↔
      s.isCancelled t = true ∨ ∃ o ∈ f.states, o.provider ∉ roster.members ∧
        ∃ t', o.inFlight? = some t' ∧ (t'.number = t.number ∨ t'.number ∈ t.ancestors) := by
    intro t
    rw [Scene.isCancelled, Scene.isCancelled, fired_reconcile, hcurrent, hdeparted,
      Token.isCancelled_iff, Token.isCancelled_iff]
    simp only [List.mem_append, List.mem_reverse, List.mem_map, List.mem_filterMap,
      List.mem_filter, decide_eq_true_eq]
    constructor
    · rintro ⟨n, ⟨t', ⟨o, ⟨ho, hgone⟩, hflight⟩, rfl⟩ | hfired, hbelow⟩
      · exact .inr ⟨o, ho, hgone, t', hflight, hbelow⟩
      · exact .inl ⟨n, hfired, hbelow⟩
    · rintro (⟨n, hfired, hbelow⟩ | ⟨o, ho, hgone, t', hflight, hbelow⟩)
      · exact ⟨n, .inr hfired, hbelow⟩
      · exact ⟨t'.number, .inl ⟨t', ⟨o, ⟨ho, hgone⟩, hflight⟩, rfl⟩, hbelow⟩
  refine ⟨?_, fun p hp => ?_, fun o ho hmem => ?_, fun p hp hnew => ?_, hcancelled,
    fun o ho hgone t hflight => ?_, ?_, f.reconcile_reconcile s⟩
  · rw [States.ids_eq_providers]
    exact hperm.map _
  · obtain ⟨o, ho, rfl⟩ := List.mem_map.mp (hperm.mem_iff.mpr hp)
    have hnodup : (f.reconcile s).1.states.ids.Nodup := by
      rw [States.ids_eq_providers]
      exact (hperm.map _).nodup_iff.mpr hmembers
    exact ⟨o, States.get?_of_mem hnodup ho, rfl⟩
  · rw [← States.get?_sync_of_registered hids hmembers ho hmem, ← hcurrent]
    rfl
  · rw [← States.get?_sync_of_untracked hids hmembers hserials hp hnew, ← hcurrent]
    rfl
  · exact (hcancelled t).mpr (.inr ⟨o, ho, hgone, t, hflight, .inl rfl⟩)
  · rw [← hdeparted, ← hcurrent]
    rfl

/-- A fulfiller that asks a provider which is still registered, holds the core of one that has been
replaced under its id, and asks and holds on to two that have gone. -/
def outpacedFulfiller : Speculative where
  board := 0
  roster := 0
  settings := { slack := 0 }
  shutdown := { number := 0 }
  requestReceiver := 0
  rosterReceiver := 0
  states :=
    [⟨⟨0, "kept"⟩, .obtaining 2 ⟨1, [0]⟩, 2⟩,
      ⟨⟨1, "replaced"⟩, .holding ⟨0, "R", 1, "replaced", .immediate⟩, 1⟩,
      ⟨⟨2, "asked"⟩, .obtaining 3 ⟨2, [0]⟩, 3⟩,
      ⟨⟨3, "waiting"⟩, .holding ⟨1, "W", 1, "waiting", .immediate⟩, 1⟩]

/-- The roster it has to follow: one provider stayed, one was replaced, and one came. -/
def movedRoster : Roster := { members := [⟨4, "replaced"⟩, ⟨5, "new"⟩, ⟨0, "kept"⟩] }

/-- Of the replaced provider the core is disposed of and its successor gets a fresh obtainment. -/
theorem reconcile_outpacedFulfiller :
    let s : Scene := { rosters := [movedRoster] }
    let r := outpacedFulfiller.reconcile s
    outpacedFulfiller.states.ids.Nodup ∧ s.rosters[outpacedFulfiller.roster]? = some movedRoster ∧
      (movedRoster.members.map (·.id)).Nodup ∧
      (∀ o ∈ outpacedFulfiller.states, ∀ p ∈ movedRoster.members,
        o.provider.serial = p.serial → o.provider = p) ∧
      r.1.states.ids.Perm ["replaced", "new", "kept"] ∧
      r.1.states.get? "replaced" = some (.new ⟨4, "replaced"⟩) ∧
      r.1.states.get? "kept" = some ⟨⟨0, "kept"⟩, .obtaining 2 ⟨1, [0]⟩, 2⟩ ∧
      r.2.isCancelled ⟨2, [0]⟩ = true ∧ r.2.isCancelled ⟨1, [0]⟩ = false ∧
      r.1.point = .counting
        [⟨0, "R", 1, "replaced", .immediate⟩, ⟨1, "W", 1, "waiting", .immediate⟩] ∧
      r.1.reconcile r.2 = (r.1.goTo (.counting []), r.2) := by
  intro s r
  have hids : outpacedFulfiller.states.ids.Nodup := by decide
  have hroster : s.rosters[outpacedFulfiller.roster]? = some movedRoster := rfl
  have hmembers : (movedRoster.members.map (·.id)).Nodup := by decide
  have hserials : ∀ o ∈ outpacedFulfiller.states, ∀ p ∈ movedRoster.members,
      o.provider.serial = p.serial → o.provider = p := by decide
  obtain ⟨hkeys, -, hkept, hnew, -, hcancelled, hpoint, hagain⟩ :=
    reconcile_follows_roster hids hroster hmembers hserials
  have hsuccessor := hnew ⟨4, "replaced"⟩ (by decide) (by decide)
  have hstays := hkept ⟨⟨0, "kept"⟩, .obtaining 2 ⟨1, [0]⟩, 2⟩ (by decide) (by decide)
  have hasked := hcancelled ⟨⟨2, "asked"⟩, .obtaining 3 ⟨2, [0]⟩, 3⟩ (by decide) (by decide) _ rfl
  exact ⟨hids, hroster, hmembers, hserials, hkeys, hsuccessor, hstays, hasked, by decide,
    hpoint.trans (by decide), hagain⟩

end Speculative

end CoreBroker
