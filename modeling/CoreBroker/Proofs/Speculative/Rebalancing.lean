import CoreBroker.Proofs.Speculative.PassSteps
set_option autoImplicit false

/-!
# What rebalancing starts and gives up

Rebalancing either starts attempts on idle providers or gives up engaged ones, and touches nothing else:
an attempt that is started has a number and a token of its own, a task and an owner, and whatever is given
up is cancelled while it is in flight or goes to the cores to be disposed of.  Each provider is chosen
once, so with the demand the number of engaged providers is met exactly.
-/

namespace CoreBroker

namespace Scene

/-- Firing tokens one after the other adds their numbers to those that have fired, and that is all. -/
theorem foldl_fire (tokens : List Token) (s : Scene) :
    tokens.foldl fire s = { s with fired := (tokens.map (·.number)).reverse ++ s.fired } := by
  induction tokens generalizing s with
  | nil => rfl
  | cons t tokens ih =>
    rw [List.foldl_cons, ih]
    simp [fire]

end Scene

/-- Whom an attempt works for. -/
def Attempt.owner (a : Attempt) : Owner := ⟨a.serial, a.provider, a.number⟩

namespace Obtainment

/-- The obtainment once the attempt on it among `news`, if there is one, is under way. -/
def resumed (news : List Attempt) (o : Obtainment Core) : Obtainment Core :=
  match news.find? (·.provider.id == o.provider.id) with
  | some a => { o with phase := .obtaining a.number a.token, started := a.number }
  | none => o

variable {news news' : List Attempt} {o : Obtainment Core} {a : Attempt}

@[simp] theorem provider_resumed (news : List Attempt) (o : Obtainment Core) :
    (o.resumed news).provider = o.provider := by
  unfold resumed
  split <;> rfl

theorem resumed_of_not_mem (hother : o.provider.id ∉ news.map (·.provider.id)) :
    o.resumed news = o := by
  have hnone : news.find? (·.provider.id == o.provider.id) = none := by
    refine List.find?_eq_none.mpr fun a ha hid => hother ?_
    exact List.mem_map.mpr ⟨a, ha, eq_of_beq hid⟩
  simp only [resumed, hnone]

theorem resumed_of_mem (hids : (news.map (·.provider.id)).Nodup) (ha : a ∈ news)
    (hid : a.provider.id = o.provider.id) :
    o.resumed news = { o with phase := .obtaining a.number a.token, started := a.number } := by
  have hfound := find?_key hids ha
  rw [hid] at hfound
  simp only [resumed, hfound]

/-- An attempt on an obtainment starts from it as it is: a second lot of attempts on other obtainments
makes no difference. -/
theorem resumed_append (hdisjoint : ∀ a ∈ news', a.provider.id ∉ news.map (·.provider.id))
    (o : Obtainment Core) : o.resumed (news ++ news') = (o.resumed news).resumed news' := by
  cases hfound : news.find? (·.provider.id == o.provider.id) with
  | none =>
    have hsame : o.resumed news = o := by simp only [resumed, hfound]
    rw [hsame]
    simp only [resumed, List.find?_append, hfound, Option.none_or]
  | some a =>
    have hid : a.provider.id = o.provider.id := by simpa using List.find?_some hfound
    have hother : (o.resumed news).provider.id ∉ news'.map (·.provider.id) := by
      rw [provider_resumed, ← hid]
      intro hmem
      obtain ⟨b, hb, hbid⟩ := List.mem_map.mp hmem
      exact hdisjoint b hb (hbid ▸ List.mem_map_of_mem (List.mem_of_find?_eq_some hfound))
    rw [resumed_of_not_mem hother]
    simp only [resumed, List.find?_append, hfound, Option.some_or]

end Obtainment

namespace States

section Choices

variable {κ : Type} {states : States κ}

theorem length_engaged (states : States κ) : states.engaged.length = states.countP (·.isEngaged) := by
  rw [engaged, List.length_map, List.countP_eq_length_filter]

theorem length_idle (states : States κ) :
    states.idle.length + states.countP (·.isEngaged) = states.length := by
  rw [idle, List.length_map, ← List.countP_eq_length_filter,
    List.length_eq_countP_add_countP (fun o : Obtainment κ => o.isIdle)]
  refine congrArg _ (List.countP_congr fun o _ => ?_)
  simp [Obtainment.isEngaged]

theorem chosen_nodup (chance : Chance) (hids : states.ids.Nodup) (p : Obtainment κ → Bool) (draw k : Nat) :
    ((chance.order draw ((states.filter p).map (·.provider.id))).take k).Nodup := by
  have hnodup : ((states.filter p).map (·.provider.id)).Nodup :=
    hids.sublist (List.filter_sublist.map _)
  exact ((chance.perm draw _).nodup_iff.mpr hnodup).sublist (List.take_sublist _ _)

theorem of_mem_chosen (chance : Chance) {p : Obtainment κ → Bool} {draw k : Nat} {id : String}
    (hid : id ∈ (chance.order draw ((states.filter p).map (·.provider.id))).take k) :
    ∃ o ∈ states, o.provider.id = id ∧ p o = true := by
  have hmem := (chance.mem_order _ _ _).mp (List.mem_of_mem_take hid)
  obtain ⟨o, ho, hoid⟩ := List.mem_map.mp hmem
  obtain ⟨hstates, hp⟩ := List.mem_filter.mp ho
  exact ⟨o, hstates, hoid, hp⟩

end Choices

variable {states : States Core} {gone gone' : List String} {o : Obtainment Core}

/-- The obtainments with those from the providers with these ids given up. -/
def release (states : States Core) (gone : List String) : States Core :=
  states.map fun o => if o.provider.id ∈ gone then o.release else o

theorem mem_release_of_not_mem (ho : o ∈ states) (hkept : o.provider.id ∉ gone) :
    o ∈ states.release gone :=
  List.mem_map.mpr ⟨o, ho, if_neg hkept⟩

theorem release_append (states : States Core) (gone gone' : List String) :
    states.release (gone ++ gone') = (states.release gone).release gone' := by
  simp only [release, List.map_map]
  refine List.map_congr_left fun o _ => ?_
  by_cases hgone : o.provider.id ∈ gone
  · simp only [List.mem_append, hgone, true_or, if_true, Function.comp_apply]
    split <;> rfl
  · simp [hgone]

theorem modify_eq_release (states : States Core) (id : String) :
    states.modify id (·.release) = states.release [id] := by
  simp [modify, release]

theorem modify_eq_resumed (hids : states.ids.Nodup) (ho : o ∈ states) {a : Attempt}
    (hprovider : a.provider = o.provider) :
    (states.modify o.provider.id fun _ =>
        { o with phase := .obtaining a.number a.token, started := a.number }) =
      states.map (·.resumed [a]) := by
  refine List.map_congr_left fun q hq => ?_
  by_cases hid : q.provider.id = o.provider.id
  · have hqo : q = o := List.inj_on_of_nodup_map hids hq ho hid
    rw [if_pos (by simpa using hid), hqo,
      Obtainment.resumed_of_mem (by simp) (List.mem_singleton_self a) (by rw [hprovider])]
  · rw [if_neg (by simpa using hid), Obtainment.resumed_of_not_mem]
    simpa [hprovider] using hid

end States

/-- The attempt is a new one on the obtainment: it has the next number there and a token of its own below
`shutdown`, and the provider has yet to be asked.  The numbers it was given are from `bound` on and below
`bound'`. -/
structure Attempt.Opens (shutdown : Token) (bound bound' : Nat) (o : Obtainment Core) (a : Attempt) :
    Prop where
  provider : a.provider = o.provider
  number : a.number = o.started + 1
  token : ∃ n, bound ≤ n ∧ n < bound' ∧ a.token = shutdown.child n
  serial : bound ≤ a.serial ∧ a.serial < bound'
  point : ∃ ticket, a.point = .calling { ticket, provider := a.provider.serial, token := a.token }

theorem Attempt.Opens.mono {shutdown : Token} {low bound bound' high : Nat} {o : Obtainment Core}
    {a : Attempt} (h : a.Opens shutdown bound bound' o) (hlow : low ≤ bound) (hhigh : bound' ≤ high) :
    a.Opens shutdown low high o := by
  obtain ⟨n, hle, hlt, htoken⟩ := h.token
  exact { h with
    token := ⟨n, Nat.le_trans hlow hle, Nat.lt_of_lt_of_le hlt hhigh, htoken⟩
    serial := ⟨Nat.le_trans hlow h.serial.1, Nat.lt_of_lt_of_le h.serial.2 hhigh⟩ }

namespace Speculative

variable {f f₁ f₂ : Speculative} {s s₁ s₂ : Scene} {me : Nat}

/-! ## Starting attempts -/

/-- The attempts `news` were started on idle obtainments, one on each, and nothing else was changed. -/
structure Starts (me : Nat) (f : Speculative) (s : Scene) (news : List Attempt) (f' : Speculative)
    (s' : Scene) : Prop where
  fulfiller : f' = { f with
    states := f.states.map (·.resumed news)
    attempts := f.attempts ++ news
    owners := f.owners ++ news.map (·.owner) }
  tasks : s'.spawned = s.spawned ++ news.map fun a => .attempt me a.serial
  fired : s'.fired = s.fired
  later : s.nextSerial ≤ s'.nextSerial
  providers : (news.map (·.provider.id)).Nodup
  serials : (news.map (·.serial)).Nodup
  opens : ∀ a ∈ news, ∃ o ∈ f.states, o.isIdle = true ∧
    a.Opens f.shutdown s.nextSerial s'.nextSerial o

namespace Starts

variable {news news' : List Attempt}

theorem none_of_same (hspawned : s₁.spawned = s.spawned) (hfired : s₁.fired = s.fired)
    (hlater : s.nextSerial ≤ s₁.nextSerial) : Starts me f s [] f s₁ where
  fulfiller := by simp [Obtainment.resumed]
  tasks := by simpa using hspawned
  fired := hfired
  later := hlater
  providers := List.nodup_nil
  serials := List.nodup_nil
  opens a ha := absurd ha List.not_mem_nil

theorem states (h : Starts me f s news f₁ s₁) : f₁.states = f.states.map (·.resumed news) := by
  rw [h.fulfiller]

theorem ids (h : Starts me f s news f₁ s₁) : f₁.states.ids = f.states.ids := by
  simp [States.ids, h.states]

/-- Where an attempt was started nobody was asked, and the attempt took the next number. -/
theorem opened (hids : f.states.ids.Nodup) (h : Starts me f s news f₁ s₁) {o : Obtainment Core}
    (ho : o ∈ f.states) (hmem : o.provider.id ∈ news.map (·.provider.id)) :
    ∃ a ∈ news, o.isIdle = true ∧ a.Opens f.shutdown s.nextSerial s₁.nextSerial o ∧
      o.resumed news = { o with phase := .obtaining a.number a.token, started := a.number } := by
  obtain ⟨a, ha, hid⟩ := List.mem_map.mp hmem
  obtain ⟨q, hq, hidle, hopens⟩ := h.opens a ha
  obtain rfl : q = o := List.inj_on_of_nodup_map hids hq ho (by rw [← hopens.provider, hid])
  exact ⟨a, ha, hidle, hopens, Obtainment.resumed_of_mem h.providers ha hid⟩

/-- What was engaged is left as it was. -/
theorem keeps (hids : f.states.ids.Nodup) (h : Starts me f s news f₁ s₁) {o : Obtainment Core}
    (ho : o ∈ f.states) (hengaged : o.isEngaged = true) : o.resumed news = o := by
  refine Obtainment.resumed_of_not_mem fun hmem => ?_
  obtain ⟨_, -, hidle, -⟩ := h.opened hids ho hmem
  rw [(Obtainment.not_isEngaged_of_isIdle hidle).1] at hengaged
  exact absurd hengaged Bool.false_ne_true

/-- Every attempt engages one provider more, and brings in no core. -/
theorem counts (hids : f.states.ids.Nodup) (h : Starts me f s news f₁ s₁) :
    f₁.states.countP (·.isEngaged) = f.states.countP (·.isEngaged) + news.length ∧
      f₁.states.countP (·.hasCore) = f.states.countP (·.hasCore) := by
  have hshares : ∀ o ∈ f.states,
      (o.resumed news).isEngaged.toNat + false.toNat =
          o.isEngaged.toNat + ((news.map (·.provider.id)).contains o.provider.id).toNat ∧
        (o.resumed news).hasCore = o.hasCore := by
    intro o ho
    by_cases hmem : o.provider.id ∈ news.map (·.provider.id)
    · obtain ⟨a, -, hidle, -, hresumed⟩ := h.opened hids ho hmem
      obtain ⟨hnot, hnone⟩ := Obtainment.not_isEngaged_of_isIdle hidle
      rw [hresumed, hnot, hnone, List.contains_iff_mem.mpr hmem]
      exact ⟨rfl, rfl⟩
    · rw [Obtainment.resumed_of_not_mem hmem, Bool.eq_false_iff.mpr (mt List.contains_iff_mem.mp hmem)]
      exact ⟨rfl, rfl⟩
  have hmore := countP_map_balance _ _ _ (fun _ => false) _ fun o ho => (hshares o ho).1
  have hthere : ∀ id ∈ news.map (·.provider.id), ∃ o ∈ f.states, o.provider.id = id := by
    intro id hid
    obtain ⟨a, ha, rfl⟩ := List.mem_map.mp hid
    obtain ⟨o, ho, -, hopens⟩ := h.opens a ha
    exact ⟨o, ho, congrArg ProviderRef.id hopens.provider.symm⟩
  rw [countP_contains_key hids h.providers hthere, List.length_map, List.countP_false] at hmore
  rw [h.states]
  refine ⟨hmore, ?_⟩
  rw [List.countP_map]
  exact List.countP_congr fun o ho => by rw [Function.comp_apply, (hshares o ho).2]

theorem isEngaged_of_mem (h : Starts me f s news f₁ s₁) {a : Attempt} (ha : a ∈ news)
    {o : Obtainment Core} (ho : o ∈ f₁.states) (hid : o.provider.id = a.provider.id) :
    o.isEngaged = true := by
  rw [h.states] at ho
  obtain ⟨q, -, rfl⟩ := List.mem_map.mp ho
  rw [Obtainment.provider_resumed] at hid
  rw [Obtainment.resumed_of_mem h.providers ha hid.symm]
  rfl

/-- Starting some attempts and then others starts them all: the second lot cannot be on the providers of
the first, which are engaged by then. -/
theorem append (h : Starts me f s news f₁ s₁)
    (h' : Starts me f₁ s₁ news' f₂ s₂) : Starts me f s (news ++ news') f₂ s₂ := by
  have hidle : ∀ b ∈ news', ∃ q ∈ f₁.states, q.isIdle = true ∧ q.provider = b.provider :=
    fun b hb => by
      obtain ⟨q, hq, hqidle, hopens⟩ := h'.opens b hb
      exact ⟨q, hq, hqidle, hopens.provider.symm⟩
  have hdisjoint : ∀ b ∈ news', b.provider.id ∉ news.map (·.provider.id) := fun b hb hmem => by
    obtain ⟨a, ha, hid⟩ := List.mem_map.mp hmem
    obtain ⟨q, hq, hqidle, hprovider⟩ := hidle b hb
    have hengaged := h.isEngaged_of_mem ha hq (by rw [hprovider, hid])
    rw [(Obtainment.not_isEngaged_of_isIdle hqidle).1] at hengaged
    exact absurd hengaged Bool.false_ne_true
  refine
    { fulfiller := ?_, tasks := ?_, fired := h'.fired.trans h.fired
      later := Nat.le_trans h.later h'.later, providers := ?_, serials := ?_, opens := ?_ }
  · rw [h'.fulfiller, h.fulfiller]
    simp only [List.map_map, List.map_append, List.append_assoc]
    congr 1
    exact List.map_congr_left fun o _ => (Obtainment.resumed_append hdisjoint o).symm
  · rw [h'.tasks, h.tasks, List.map_append, List.append_assoc]
  · rw [List.map_append, List.nodup_append]
    refine ⟨h.providers, h'.providers, fun x hx y hy hxy => ?_⟩
    obtain ⟨b, hb, rfl⟩ := List.mem_map.mp hy
    exact hdisjoint b hb (hxy ▸ hx)
  · rw [List.map_append, List.nodup_append]
    refine ⟨h.serials, h'.serials, fun x hx y hy hxy => ?_⟩
    obtain ⟨a, ha, rfl⟩ := List.mem_map.mp hx
    obtain ⟨b, hb, rfl⟩ := List.mem_map.mp hy
    obtain ⟨_, _, _, hopens⟩ := h.opens a ha
    obtain ⟨_, _, _, hopens'⟩ := h'.opens b hb
    exact absurd hxy (Nat.ne_of_lt (Nat.lt_of_lt_of_le hopens.serial.2 hopens'.serial.1))
  · intro a ha
    rcases List.mem_append.mp ha with ha | ha
    · obtain ⟨o, ho, hoidle, hopens⟩ := h.opens a ha
      exact ⟨o, ho, hoidle, hopens.mono (Nat.le_refl _) h'.later⟩
    · obtain ⟨q, hq, hqidle, hopens⟩ := h'.opens a ha
      rw [h.states] at hq
      obtain ⟨o, ho, rfl⟩ := List.mem_map.mp hq
      have hsame : o.resumed news = o := by
        refine Obtainment.resumed_of_not_mem ?_
        rw [← Obtainment.provider_resumed news o, ← hopens.provider]
        exact hdisjoint a ha
      rw [hsame] at hqidle hopens
      rw [h.fulfiller] at hopens
      exact ⟨o, ho, hqidle, hopens.mono h.later (Nat.le_refl _)⟩

end Starts

/-- An attempt on an idle provider is the only one that is started. -/
theorem startAttempt_starts (hids : f.states.ids.Nodup) {o : Obtainment Core} (ho : o ∈ f.states)
    (hidle : o.isIdle = true) (me : Nat) (s : Scene) :
    ∃ a : Attempt, a.provider = o.provider ∧ Starts me f s [a]
      (f.startAttempt me s o.provider.id).1 (f.startAttempt me s o.provider.id).2 := by
  have hphase : o.phase = .idle := by
    unfold Obtainment.isIdle at hidle
    split at hidle
    · assumption
    · exact absurd hidle Bool.false_ne_true
  unfold startAttempt
  simp only [States.get?_of_mem hids ho, Obtainment.start?, hphase]
  have hsaid := (s.fresh.2.logsOnly_report .debug "starting obtainment"
    [providerField o.provider.id, ("attempt", .ofText (toString (o.started + 1)))]).trans
      (Scene.logsOnly_trace _ f.sink traceSource ("obtaining from " ++ o.provider.id : String))
  simp only [trace]
  generalize ((s.fresh.2.report .debug _ _).trace _ _ _) = s₁ at hsaid ⊢
  have hserial : s₁.nextSerial = s.nextSerial + 1 := hsaid.same (·.nextSerial) fun _ _ _ => rfl
  let a : Attempt :=
    { serial := s₁.nextSerial, number := o.started + 1, provider := o.provider
      token := f.shutdown.child s.fresh.1
      point := .calling (s₁.fresh.2.newCall o.provider.serial (f.shutdown.child s.fresh.1)).1 }
  refine ⟨a, rfl, ?_⟩
  exact
    { fulfiller := by
        rw [← States.modify_eq_resumed hids ho (show a.provider = o.provider from rfl)]
        rfl
      tasks := congrArg (· ++ [_]) (hsaid.same (·.spawned) fun _ _ _ => rfl)
      fired := hsaid.same (·.fired) fun _ _ _ => rfl
      later := by
        show s.nextSerial ≤ s₁.nextSerial + 1 + 1
        omega
      providers := List.nodup_singleton _
      serials := List.nodup_singleton _
      opens := by
        intro b hb
        rw [List.mem_singleton.mp hb]
        refine ⟨o, ho, hidle, rfl, rfl, ⟨s.nextSerial, Nat.le_refl _, ?_, rfl⟩, ⟨?_, ?_⟩, ⟨_, rfl⟩⟩
        · show s.nextSerial < s₁.nextSerial + 1 + 1
          omega
        · show s.nextSerial ≤ s₁.nextSerial
          omega
        · show s₁.nextSerial < s₁.nextSerial + 1 + 1
          omega }

/-- Of idle providers every one is asked. -/
theorem startAttempts_starts (me : Nat) : ∀ (ids : List String) {f : Speculative} (s : Scene),
    f.states.ids.Nodup → ids.Nodup →
      (∀ id ∈ ids, ∃ o ∈ f.states, o.provider.id = id ∧ o.isIdle = true) →
      ∃ news : List Attempt, news.map (·.provider.id) = ids ∧
        Starts me f s news (f.startAttempts me s ids).1 (f.startAttempts me s ids).2 := by
  intro ids
  induction ids with
  | nil => exact fun s _ _ _ => ⟨[], rfl, .none_of_same rfl rfl (Nat.le_refl _)⟩
  | cons id rest ih =>
    intro f s hids hnodup hidle
    obtain ⟨o, ho, rfl, hoidle⟩ := hidle id List.mem_cons_self
    obtain ⟨hfresh, hrest⟩ := List.nodup_cons.mp hnodup
    obtain ⟨a, hprovider, hfirst⟩ := startAttempt_starts hids ho hoidle me s
    obtain ⟨news, hnews, hothers⟩ := ih (f.startAttempt me s o.provider.id).2
      (by rw [hfirst.ids]; exact hids) hrest fun id hid => by
        obtain ⟨q, hq, rfl, hqidle⟩ := hidle id (List.mem_cons_of_mem _ hid)
        have hsame : q.resumed [a] = q := by
          refine Obtainment.resumed_of_not_mem ?_
          simp only [List.map_singleton, List.mem_singleton, hprovider]
          exact fun heq => hfresh (heq ▸ hid)
        refine ⟨q, ?_, rfl, hqidle⟩
        rw [hfirst.states]
        exact List.mem_map.mpr ⟨q, hq, hsame⟩
    exact ⟨a :: news, by rw [List.map_cons, hnews, hprovider], hfirst.append hothers⟩

/-! ## Giving up -/

/-- The obtainments `gone` were given up, each once, and nothing else was changed. -/
structure GivesUp (f : Speculative) (s : Scene) (discarded : List Core) (gone : List (Obtainment Core))
    (f' : Speculative) (s' : Scene) (discarded' : List Core) : Prop where
  fulfiller : f' = { f with states := f.states.release (gone.map (·.provider.id)) }
  tasks : s'.spawned = s.spawned
  fired : s'.fired = ((gone.filterMap (·.inFlight?)).map (·.number)).reverse ++ s.fired
  discarded : discarded' = discarded ++ gone.filterMap (·.heldCore?)
  providers : (gone.map (·.provider.id)).Nodup
  engaged : ∀ o ∈ gone, o ∈ f.states ∧ o.isEngaged = true

namespace GivesUp

variable {d d₁ d₂ : List Core} {gone gone' : List (Obtainment Core)} {o : Obtainment Core}

theorem none_of_same (hspawned : s₁.spawned = s.spawned) (hfired : s₁.fired = s.fired) :
    GivesUp f s d [] f s₁ d where
  fulfiller := by simp [States.release]
  tasks := hspawned
  fired := by simpa using hfired
  discarded := by simp
  providers := List.nodup_nil
  engaged o ho := absurd ho List.not_mem_nil

theorem states (h : GivesUp f s d gone f₁ s₁ d₁) :
    f₁.states = f.states.release (gone.map (·.provider.id)) := by
  rw [h.fulfiller]

theorem ids (h : GivesUp f s d gone f₁ s₁ d₁) : f₁.states.ids = f.states.ids := by
  rw [h.states, States.ids, States.ids, States.release, List.map_map]
  refine List.map_congr_left fun o _ => ?_
  simp only [Function.comp_apply]
  split <;> rfl

theorem isCancelled (h : GivesUp f s d gone f₁ s₁ d₁) (ho : o ∈ gone) {t : Token}
    (hflight : o.inFlight? = some t) : s₁.isCancelled t = true := by
  have hmem : t.number ∈ s₁.fired := by
    rw [h.fired]
    exact List.mem_append_left _ (List.mem_reverse.mpr
      (List.mem_map_of_mem (List.mem_filterMap.mpr ⟨o, ho, hflight⟩)))
  simp [Scene.isCancelled, Token.isCancelled, hmem]

/-- What was not given up is left as it was. -/
theorem keeps (hids : f.states.ids.Nodup) (h : GivesUp f s d gone f₁ s₁ d₁) (ho : o ∈ f.states)
    (hkept : o ∉ gone) : o ∈ f₁.states := by
  rw [h.states]
  refine States.mem_release_of_not_mem ho fun hmem => hkept ?_
  obtain ⟨q, hq, hid⟩ := List.mem_map.mp hmem
  rwa [List.inj_on_of_nodup_map hids ho (h.engaged q hq).1 hid.symm]

theorem isIdle_of_mem (h : GivesUp f s d gone f₁ s₁ d₁) {q : Obtainment Core} (hq : q ∈ gone)
    (ho : o ∈ f₁.states) (hid : o.provider.id = q.provider.id) : o.isIdle = true := by
  rw [h.states] at ho
  obtain ⟨p, -, rfl⟩ := List.mem_map.mp ho
  by_cases hgone : p.provider.id ∈ gone.map (·.provider.id)
  · rw [if_pos hgone]
    rfl
  · rw [if_neg hgone] at hid
    exact absurd (hid ▸ List.mem_map_of_mem hq) hgone

/-- Giving up some and then others gives them all up: those of the second lot cannot be of the first,
which are idle by then. -/
theorem append (h : GivesUp f s d gone f₁ s₁ d₁) (h' : GivesUp f₁ s₁ d₁ gone' f₂ s₂ d₂) :
    GivesUp f s d (gone ++ gone') f₂ s₂ d₂ := by
  have hdisjoint : ∀ q ∈ gone', q.provider.id ∉ gone.map (·.provider.id) := fun q hq hmem => by
    obtain ⟨o, ho, hid⟩ := List.mem_map.mp hmem
    obtain ⟨hstates, hengaged⟩ := h'.engaged q hq
    rw [Obtainment.isEngaged, h.isIdle_of_mem ho hstates hid.symm] at hengaged
    exact absurd hengaged Bool.false_ne_true
  refine
    { fulfiller := ?_, tasks := h'.tasks.trans h.tasks, fired := ?_, discarded := ?_
      providers := ?_, engaged := ?_ }
  · rw [h'.fulfiller, h.fulfiller, List.map_append, States.release_append]
  · simp only [h'.fired, h.fired, List.filterMap_append, List.map_append, List.reverse_append,
      List.append_assoc]
  · rw [h'.discarded, h.discarded, List.filterMap_append, List.append_assoc]
  · rw [List.map_append, List.nodup_append]
    refine ⟨h.providers, h'.providers, fun x hx y hy hxy => ?_⟩
    obtain ⟨q, hq, rfl⟩ := List.mem_map.mp hy
    exact hdisjoint q hq (hxy ▸ hx)
  · intro o ho
    rcases List.mem_append.mp ho with ho | ho
    · exact h.engaged o ho
    · obtain ⟨hstates, hengaged⟩ := h'.engaged o ho
      refine ⟨?_, hengaged⟩
      rw [h.states] at hstates
      obtain ⟨q, hq, hqo⟩ := List.mem_map.mp hstates
      -- It was not released by the first lot, so it is what it was before.
      by_cases hgone : q.provider.id ∈ gone.map (·.provider.id)
      · rw [if_pos hgone] at hqo
        exact absurd (hqo ▸ hgone) (hdisjoint o ho)
      · rw [if_neg hgone] at hqo
        rwa [← hqo]

/-- Whatever is given up is one engaged provider less, and brings in no core. -/
theorem counts (hids : f.states.ids.Nodup) (h : GivesUp f s d gone f₁ s₁ d₁) :
    f₁.states.countP (·.isEngaged) + gone.length = f.states.countP (·.isEngaged) ∧
      f₁.states.countP (·.hasCore) ≤ f.states.countP (·.hasCore) := by
  have hshares : ∀ o ∈ f.states,
      (if o.provider.id ∈ gone.map (·.provider.id) then o.release else o).isEngaged.toNat +
          ((gone.map (·.provider.id)).contains o.provider.id).toNat =
        o.isEngaged.toNat + false.toNat := by
    intro o ho
    by_cases hmem : o.provider.id ∈ gone.map (·.provider.id)
    · obtain ⟨q, hq, hid⟩ := List.mem_map.mp hmem
      obtain ⟨hstates, hengaged⟩ := h.engaged q hq
      obtain rfl : q = o := List.inj_on_of_nodup_map hids hstates ho hid
      rw [if_pos hmem, hengaged, List.contains_iff_mem.mpr hmem]
      rfl
    · rw [if_neg hmem, Bool.eq_false_iff.mpr (mt List.contains_iff_mem.mp hmem)]
  have hless := countP_map_balance _ _ _ _ (fun _ => false) hshares
  have hthere : ∀ id ∈ gone.map (·.provider.id), ∃ o ∈ f.states, o.provider.id = id := by
    intro id hid
    obtain ⟨o, ho, rfl⟩ := List.mem_map.mp hid
    exact ⟨o, (h.engaged o ho).1, rfl⟩
  rw [countP_contains_key hids h.providers hthere, List.length_map, List.countP_false] at hless
  rw [h.states]
  refine ⟨hless, ?_⟩
  rw [States.release, List.countP_map]
  refine List.countP_mono_left fun o _ hcore => ?_
  rw [Function.comp_apply] at hcore
  split at hcore
  · exact absurd hcore Bool.false_ne_true
  · exact hcore

end GivesUp

/-- An engaged provider is the only one that is given up. -/
theorem giveUp_givesUp (hids : f.states.ids.Nodup) {o : Obtainment Core} (ho : o ∈ f.states)
    (hengaged : o.isEngaged = true) (s : Scene) (discarded : List Core) :
    GivesUp f s discarded [o] (f.giveUp s discarded o.provider.id).1
      (f.giveUp s discarded o.provider.id).2.1 (f.giveUp s discarded o.provider.id).2.2 := by
  unfold giveUp
  simp only [States.get?_of_mem hids ho, trace, Scene.foldl_fire]
  have hsaid := (s.logsOnly_report .debug "cancelling surplus obtainment"
    [providerField o.provider.id]).trans (Scene.logsOnly_trace _ f.sink traceSource
      ("cancelled obtainment on " ++ o.provider.id : String))
  generalize ((s.report .debug _ _).trace _ _ _) = s₁ at hsaid ⊢
  have hfired : s₁.fired = s.fired := hsaid.same (·.fired) fun _ _ _ => rfl
  exact
    { fulfiller := by rw [States.modify_eq_release, List.map_singleton]
      tasks := hsaid.same (·.spawned) fun _ _ _ => rfl
      fired := by
        rw [hfired]
        cases hflight : o.inFlight? with
        | none => simp [hflight]
        | some t => simp [hflight]
      discarded := by
        cases hheld : o.heldCore? with
        | none => simp [hheld]
        | some core => simp [hheld]
      providers := List.nodup_singleton _
      engaged := fun q hq => by
        rw [List.mem_singleton.mp hq]
        exact ⟨ho, hengaged⟩ }

/-- Of engaged providers every one is given up. -/
theorem giveUpAll_givesUp : ∀ (ids : List String) {f : Speculative} (s : Scene)
    (discarded : List Core), f.states.ids.Nodup → ids.Nodup →
      (∀ id ∈ ids, ∃ o ∈ f.states, o.provider.id = id ∧ o.isEngaged = true) →
      ∃ gone : List (Obtainment Core), gone.map (·.provider.id) = ids ∧
        GivesUp f s discarded gone (f.giveUpAll s discarded ids).1
          (f.giveUpAll s discarded ids).2.1 (f.giveUpAll s discarded ids).2.2 := by
  intro ids
  induction ids with
  | nil => exact fun s _ _ _ _ => ⟨[], rfl, .none_of_same rfl rfl⟩
  | cons id rest ih =>
    intro f s discarded hids hnodup hengaged
    obtain ⟨o, ho, rfl, hoengaged⟩ := hengaged id List.mem_cons_self
    obtain ⟨hfresh, hrest⟩ := List.nodup_cons.mp hnodup
    have hfirst := giveUp_givesUp hids ho hoengaged s discarded
    obtain ⟨gone, hgone, hothers⟩ := ih (f.giveUp s discarded o.provider.id).2.1
      (f.giveUp s discarded o.provider.id).2.2 (by rw [hfirst.ids]; exact hids) hrest
      fun id hid => by
        obtain ⟨q, hq, rfl, hqengaged⟩ := hengaged id (List.mem_cons_of_mem _ hid)
        refine ⟨q, hfirst.keeps hids hq fun hmem => hfresh ?_, rfl, hqengaged⟩
        rwa [← List.mem_singleton.mp hmem]
    exact ⟨o :: gone, by rw [List.map_cons, hgone], hfirst.append hothers⟩

/-! ## Rebalancing -/

/-- All that rebalancing can do, with what it is aimed at: it starts attempts, or gives obtainments up,
as many of them as that takes. -/
theorem rebalance_starts_or_givesUp (chance : Chance) (hids : f.states.ids.Nodup) (me : Nat) (s : Scene)
    (pending : Nat) (discarded : List Core) :
    let target := States.target pending f.settings.slack.toNat
    let engaged := f.states.countP (·.isEngaged)
    let r := f.rebalance chance me s pending discarded
    (engaged ≤ target ∧ r.2.2 = discarded ∧ ∃ news : List Attempt,
        news.length = min target f.states.length - engaged ∧ Starts me f s news r.1 r.2.1) ∨
      (target < engaged ∧ ∃ gone : List (Obtainment Core),
        gone.length = engaged - target ∧ GivesUp f s discarded gone r.1 r.2.1 r.2.2) := by
  have hengagedLength := States.length_engaged f.states
  have hidleLength := States.length_idle f.states
  simp only [rebalance]
  have hsaid := s.logsOnly_report .trace "obtainment sizing"
    [("remaining", .ofText (toString pending)),
     ("target", .ofText (toString (States.target pending f.settings.slack.toNat))),
     ("engaged", .ofText (toString f.states.engaged.length)),
     ("idle", .ofText (toString f.states.idle.length))]
  generalize s.report _ _ _ = s₁ at hsaid ⊢
  generalize States.target pending f.settings.slack.toNat = target
  have hspawned : s₁.spawned = s.spawned := hsaid.same (·.spawned) fun _ _ _ => rfl
  have hfired : s₁.fired = s.fired := hsaid.same (·.fired) fun _ _ _ => rfl
  have hserial : s₁.nextSerial = s.nextSerial := hsaid.same (·.nextSerial) fun _ _ _ => rfl
  split
  · rename_i hless
    obtain ⟨news, hnews, hstarts⟩ := startAttempts_starts me
      ((chance.order s₁.draws f.states.idle).take (target - f.states.engaged.length))
      { s₁ with draws := s₁.draws + 1 } hids
      (States.chosen_nodup chance hids _ _ _) fun id hid => States.of_mem_chosen chance hid
    have hlength := congrArg List.length hnews
    rw [List.length_map, List.length_take, chance.length_order] at hlength
    refine .inl ⟨by omega, rfl, news, by omega, ?_⟩
    have hdraw : Starts me f s [] f { s₁ with draws := s₁.draws + 1 } :=
      .none_of_same hspawned hfired (Nat.le_of_eq hserial.symm)
    exact hdraw.append hstarts
  · split
    · rename_i _ hmore
      obtain ⟨gone, hgone, hgivesUp⟩ := giveUpAll_givesUp
        ((chance.order s₁.draws f.states.engaged).take (f.states.engaged.length - target))
        { s₁ with draws := s₁.draws + 1 } discarded hids
        (States.chosen_nodup chance hids _ _ _) fun id hid => States.of_mem_chosen chance hid
      have hlength := congrArg List.length hgone
      rw [List.length_map, List.length_take, chance.length_order] at hlength
      refine .inr ⟨by omega, gone, by omega, ?_⟩
      have hdraw : GivesUp f s discarded [] f { s₁ with draws := s₁.draws + 1 } discarded :=
        .none_of_same hspawned hfired
      exact hdraw.append hgivesUp
    · exact .inl ⟨by omega, rfl, [], by simp; omega,
        .none_of_same hspawned hfired (Nat.le_of_eq hserial.symm)⟩

/-- After rebalancing as many providers are engaged as there should be, or all there are; it brings in
no core. -/
theorem rebalance_engaged (chance : Chance) (hids : f.states.ids.Nodup) (me : Nat) (s : Scene)
    (pending : Nat) (discarded : List Core) :
    (f.rebalance chance me s pending discarded).1.states.countP (·.isEngaged) =
        min (States.target pending f.settings.slack.toNat) f.states.length ∧
      (f.rebalance chance me s pending discarded).1.states.countP (·.hasCore) ≤
        f.states.countP (·.hasCore) := by
  have hroom : f.states.countP (·.isEngaged) ≤ f.states.length := List.countP_le_length
  rcases rebalance_starts_or_givesUp chance hids me s pending discarded with
    ⟨hfew, -, news, hlength, hstarts⟩ | ⟨hmany, gone, hlength, hgivesUp⟩
  · obtain ⟨hengaged, hcores⟩ := hstarts.counts hids
    exact ⟨by omega, Nat.le_of_eq hcores⟩
  · obtain ⟨hengaged, hcores⟩ := hgivesUp.counts hids
    exact ⟨by omega, hcores⟩

/-- The same at the end of a pass, once the cores that were not needed are put back. -/
theorem resize_starts_or_givesUp (chance : Chance) (hids : f.states.ids.Nodup) (me : Nat)
    (discarded : List Core) (matched : Matched) :
    let before := f.putBack matched.leftovers
    let put := discarded ++ (f.states.restoreCores matched.leftovers).2
    let r := f.resize chance me discarded matched
    (r.2.2 = put ∧ ∃ news : List Attempt,
        Starts me before (matched.scene.leave f.board) news r.1 r.2.1) ∨
      ∃ gone : List (Obtainment Core),
        GivesUp before (matched.scene.leave f.board) put gone r.1 r.2.1 r.2.2 := by
  rcases rebalance_starts_or_givesUp chance (putBack_ids hids matched.leftovers) me
    (matched.scene.leave f.board) matched.pending
    (discarded ++ (f.states.restoreCores matched.leftovers).2) with
      ⟨-, hsame, news, -, hstarts⟩ | ⟨-, gone, -, hgivesUp⟩
  · exact .inl ⟨hsame, news, hstarts⟩
  · exact .inr ⟨gone, hgivesUp⟩

/-- Rebalancing meets its target exactly, whatever chance brings.  With too few engaged providers it only
starts attempts: every engaged obtainment is left as it was, and as many idle ones as are missing, or all
there are, are asked, each by an attempt of its own with a task and an owner.  With too many it only gives
up: the surplus is idle afterwards, every attempt of it that was in flight is cancelled and every core of
it is among those to be disposed of, once; every other obtainment is left as it was. -/
theorem rebalance_meets_target (chance : Chance) (hids : f.states.ids.Nodup) (me : Nat) (s : Scene)
    (pending : Nat) (discarded : List Core)
    (hfits : pending + f.settings.slack.toNat < UInt64.size) :
    let target := if pending = 0 then 0 else pending + f.settings.slack.toNat
    let engaged := f.states.countP (·.isEngaged)
    let r := f.rebalance chance me s pending discarded
    r.1.states.countP (·.isEngaged) = min target f.states.length ∧
      (engaged ≤ target →
        (∀ o ∈ f.states, o.isEngaged = true → o ∈ r.1.states) ∧ r.2.2 = discarded ∧
          ∃ news : List Attempt, news.length = min target f.states.length - engaged ∧
            Starts me f s news r.1 r.2.1) ∧
      (target < engaged → ∃ gone : List (Obtainment Core), gone.length = engaged - target ∧
        GivesUp f s discarded gone r.1 r.2.1 r.2.2 ∧
        (∀ o ∈ gone, ∀ t, o.inFlight? = some t → r.2.1.isCancelled t = true) ∧
        (∀ o ∈ f.states, o ∉ gone → o ∈ r.1.states)) := by
  have htarget : States.target pending f.settings.slack.toNat =
      if pending = 0 then 0 else pending + f.settings.slack.toNat := by
    rw [States.target, Nat.mod_eq_of_lt hfits]
  have hcount := (rebalance_engaged chance hids me s pending discarded).1
  have hacts := rebalance_starts_or_givesUp chance hids me s pending discarded
  simp only [htarget] at hcount hacts
  refine ⟨hcount, fun hfew => ?_, fun hmany => ?_⟩
  · rcases hacts with ⟨-, hdiscarded, news, hlength, hstarts⟩ | ⟨hmany, -⟩
    · refine ⟨fun o ho hengaged => ?_, hdiscarded, news, hlength, hstarts⟩
      rw [hstarts.states]
      exact List.mem_map.mpr ⟨o, ho, hstarts.keeps hids ho hengaged⟩
    · exact absurd hmany (Nat.not_lt.mpr hfew)
  · rcases hacts with ⟨hfew, -⟩ | ⟨-, gone, hlength, hgivesUp⟩
    · exact absurd hmany (Nat.not_lt.mpr hfew)
    · exact ⟨gone, hlength, hgivesUp, fun o ho t => hgivesUp.isCancelled ho,
        fun o ho => hgivesUp.keeps hids ho⟩

/-- A fulfiller that tracks an idle provider, one that is asked and one whose core waits. -/
def mixedFulfiller : Speculative where
  board := 0
  roster := 0
  settings := { slack := 0 }
  shutdown := { number := 0 }
  requestReceiver := 0
  rosterReceiver := 0
  states :=
    [⟨⟨0, "idle"⟩, .idle, 4⟩, ⟨⟨1, "asked"⟩, .obtaining 2 ⟨1, [0]⟩, 2⟩,
      ⟨⟨2, "waiting"⟩, .holding ⟨0, "W", 1, "waiting", .immediate⟩, 1⟩]

/-- One request is one too few for it, and four are more than it has providers for. -/
theorem rebalance_mixedFulfiller :
    mixedFulfiller.states.ids.Nodup ∧ 4 + mixedFulfiller.settings.slack.toNat < UInt64.size ∧
      (∃ gone, gone.length = 1 ∧ GivesUp mixedFulfiller {} [] gone
        (mixedFulfiller.rebalance .plain 0 {} 1 []).1 (mixedFulfiller.rebalance .plain 0 {} 1 []).2.1
        (mixedFulfiller.rebalance .plain 0 {} 1 []).2.2) ∧
      ∃ news, news.length = 1 ∧ Starts 0 mixedFulfiller {} news
        (mixedFulfiller.rebalance .plain 0 {} 4 []).1 (mixedFulfiller.rebalance .plain 0 {} 4 []).2.1 := by
  have hids : mixedFulfiller.states.ids.Nodup := by decide
  have hfits : 4 + mixedFulfiller.settings.slack.toNat < UInt64.size := by decide
  obtain ⟨gone, hgone, hgivesUp, -⟩ :=
    (rebalance_meets_target .plain hids 0 {} 1 [] (by decide)).2.2 (by decide)
  obtain ⟨-, -, news, hnews, hstarts⟩ :=
    (rebalance_meets_target .plain hids 0 {} 4 [] hfits).2.1 (by decide)
  exact ⟨hids, hfits, ⟨gone, hgone, hgivesUp⟩, news, hnews, hstarts⟩

end Speculative

end CoreBroker
