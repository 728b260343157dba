import CoreBroker.Proofs.Runs.Reservations
set_option autoImplicit false

/-!
# Who listens where

Every fulfiller has receivers of its own: a receiver is given out once, and neither the client nor another
fulfiller looks at it or gives it up.  So whatever a fulfiller has not done itself, it is told of.
-/

namespace CoreBroker

/-- The event reserves a request of the registry `b`. -/
def Event.reservesIn (b : Nat) : Event → Bool
  | .changed board (.reserved _) => board == b
  | _ => false

namespace World

/-- Where the fulfillers listen for requests: the registry and the receiver of each. -/
def listeners (w : World) : List (Nat × Nat) :=
  w.dedicated.map (fun f => (f.board, f.receiver)) ++
    w.speculative.map fun f => (f.board, f.requestReceiver)

/-- Where the fulfillers listen for providers: the roster and the receiver of each. -/
def rosterListeners (w : World) : List (Nat × Nat) :=
  w.speculative.map fun f => (f.roster, f.rosterReceiver)

/-- No two fulfillers share a receiver, and every receiver was given out. -/
structure IsApart (w : World) : Prop where
  boards : w.listeners.Nodup
  rosters : w.rosterListeners.Nodup
  issued : ∀ l ∈ w.listeners, w.scene.stage.HasIssuedBoard l.1 l.2
  rosterIssued : ∀ l ∈ w.rosterListeners, w.scene.stage.HasIssuedRoster l.1 l.2

variable {chance : Chance} {w w' : World} {actor : Option Task} {events : List Event}

/-! ## Receivers are given out once -/

theorem listeners_of_bare (hdedicated : w'.dedicated.map Dedicated.bare = w.dedicated.map Dedicated.bare)
    (hspeculative : w'.speculative.map Speculative.bare = w.speculative.map Speculative.bare) :
    w'.listeners = w.listeners ∧ w'.rosterListeners = w.rosterListeners := by
  have hd : ∀ fs : List Dedicated, fs.map (fun f => (f.board, f.receiver)) =
      (fs.map Dedicated.bare).map fun f => (f.board, f.receiver) := fun fs => by
    rw [List.map_map]
    rfl
  have hs : ∀ {α : Type} (see : Speculative → α), (∀ f, see f.bare = see f) →
      ∀ fs : List Speculative, fs.map see = (fs.map Speculative.bare).map see := fun see hsee fs => by
    rw [List.map_map]
    exact List.map_congr_left fun f _ => (hsee f).symm
  refine ⟨?_, ?_⟩
  · rw [listeners, listeners, hd, hs _ (fun _ => rfl), hdedicated, hspeculative, ← hd,
      ← hs _ (fun _ => rfl)]
  · rw [rosterListeners, rosterListeners, hs _ (fun _ => rfl), hspeculative, ← hs _ (fun _ => rfl)]

/-- As long as no fulfiller is set up, the receivers stay apart. -/
theorem IsApart.of_same (hw : w.IsApart) {may : Stage → Act → Prop}
    (hacts : w.scene.ActSequence may events w'.scene)
    (hsame : w'.listeners = w.listeners ∧ w'.rosterListeners = w.rosterListeners) : w'.IsApart where
  boards := hsame.1 ▸ hw.boards
  rosters := hsame.2 ▸ hw.rosters
  issued l hl := hacts.hasIssuedBoard (hw.issued l (hsame.1 ▸ hl))
  rosterIssued l hl := hacts.hasIssuedRoster (hw.rosterIssued l (hsame.2 ▸ hl))

/-- The next receiver of a registry is nobody's. -/
theorem IsApart.not_mem_listeners (hw : w.IsApart) {b : Nat} {g : Registry Core}
    {changes : Channel Statistics} (hboard : w.scene.stage.boards[b]? = some (g, changes)) :
    (b, changes.issued) ∉ w.listeners := by
  intro hmem
  obtain ⟨g', changes', hboard', hlt⟩ := hw.issued _ hmem
  rw [hboard] at hboard'
  cases hboard'
  exact absurd hlt (Nat.lt_irrefl _)

/-- The next receiver of a roster is nobody's. -/
theorem IsApart.not_mem_rosterListeners (hw : w.IsApart) {i : Nat} {members : List ProviderRef}
    {changes : Channel RosterChange}
    (hroster : w.scene.stage.rosters[i]? = some (members, changes)) :
    (i, changes.issued) ∉ w.rosterListeners := by
  intro hmem
  obtain ⟨members', changes', hroster', hlt⟩ := hw.rosterIssued _ hmem
  rw [hroster] at hroster'
  cases hroster'
  exact absurd hlt (Nat.lt_irrefl _)

/-- Every transition keeps the receivers apart. -/
theorem Transition.isApart (hw : w.IsApart) (h : Transition chance w actor events w') : w'.IsApart := by
  cases h with
  | @dedicated i f f' s _ hf _ hsteps =>
    have hsubscription : (f'.board, f'.receiver) = (f.board, f.receiver) := by rw [hsteps.flow.same]
    refine hw.of_same hsteps.acts ⟨?_, rfl⟩
    rw [listeners, listeners, map_set_eq_self hf hsubscription]
  | @speculative i f f' s _ hf _ haccounts =>
    refine hw.of_same haccounts.acts ⟨?_, ?_⟩
    · rw [listeners, listeners, map_set_eq_self hf]
      rw [haccounts.same]
    · rw [rosterListeners, rosterListeners, map_set_eq_self hf]
      rw [haccounts.same]
  | @attempt i f f' a s _ hf _ _ haccounts =>
    refine hw.of_same haccounts.acts ⟨?_, ?_⟩
    · rw [listeners, listeners, map_set_eq_self hf]
      rw [haccounts.same]
    · rw [rosterListeners, rosterListeners, map_set_eq_self hf]
      rw [haccounts.same]
  | client _ hclient =>
    exact hw.of_same hclient.acts (listeners_of_bare hclient.dedicated hclient.speculative)
  | @employed f s g changes _ _ hboard hreceiver hstage hacts =>
    have hnew : (f.board, f.receiver) ∉ w.listeners := hreceiver ▸ hw.not_mem_listeners hboard
    have hperm : ({ w with scene := s, dedicated := w.dedicated ++ [f] } : World).listeners.Perm
        ((f.board, f.receiver) :: w.listeners) := by
      simp only [listeners, List.map_append, List.map_cons, List.map_nil, List.append_assoc,
        List.singleton_append]
      exact List.perm_middle
    refine ⟨hperm.nodup_iff.mpr (List.nodup_cons.mpr ⟨hnew, hw.boards⟩), hw.rosters, fun l hl => ?_,
      fun l hl => hacts.hasIssuedRoster (hw.rosterIssued l hl)⟩
    rcases List.mem_cons.mp (hperm.mem_iff.mp hl) with rfl | hold
    · rw [hstage, hreceiver]
      exact Stage.hasIssuedBoard_subscribe hboard
    · exact hacts.hasIssuedBoard (hw.issued l hold)
  | @engaged f s g changes members rosterChanges _ hboard hreceiver hroster hrosterReceiver
      hstage hacts =>
    have hnew : (f.board, f.requestReceiver) ∉ w.listeners := hreceiver ▸ hw.not_mem_listeners hboard
    have hnewRoster : (f.roster, f.rosterReceiver) ∉ w.rosterListeners :=
      hrosterReceiver ▸ hw.not_mem_rosterListeners hroster
    have hperm : ({ w with scene := s, speculative := w.speculative ++ [f] } : World).listeners.Perm
        ((f.board, f.requestReceiver) :: w.listeners) := by
      simp only [listeners, List.map_append, List.map_cons, List.map_nil, ← List.append_assoc]
      exact List.perm_append_singleton _ _
    have hrosterPerm : ({ w with scene := s, speculative := w.speculative ++ [f] } :
        World).rosterListeners.Perm ((f.roster, f.rosterReceiver) :: w.rosterListeners) := by
      simp only [rosterListeners, List.map_append, List.map_cons, List.map_nil]
      exact List.perm_append_singleton _ _
    refine ⟨hperm.nodup_iff.mpr (List.nodup_cons.mpr ⟨hnew, hw.boards⟩),
      hrosterPerm.nodup_iff.mpr (List.nodup_cons.mpr ⟨hnewRoster, hw.rosters⟩), fun l hl => ?_,
      fun l hl => ?_⟩
    · rcases List.mem_cons.mp (hperm.mem_iff.mp hl) with rfl | hold
      · rw [hstage, hreceiver]
        exact Stage.hasIssuedBoard_subscribe hboard
      · exact hacts.hasIssuedBoard (hw.issued l hold)
    · rcases List.mem_cons.mp (hrosterPerm.mem_iff.mp hl) with rfl | hold
      · rw [hstage, hrosterReceiver]
        exact Stage.hasIssuedRoster_subscribe hroster
      · exact hacts.hasIssuedRoster (hw.rosterIssued l hold)

/-! ## What a fulfiller is told of -/

theorem IsApart.dedicated_ne (hw : w.IsApart) {i k : Nat} {f g : Dedicated}
    (hf : w.dedicated[i]? = some f) (hg : w.dedicated[k]? = some g) (hik : k ≠ i) :
    ¬ (g.board = f.board ∧ g.receiver = f.receiver) := by
  rintro ⟨hboard, hreceiver⟩
  have hnodup := (List.nodup_append.mp hw.boards).1
  have hlt : k < (w.dedicated.map fun f => (f.board, f.receiver)).length := by
    rw [List.length_map]
    exact (List.getElem?_eq_some_iff.mp hg).1
  refine hik ((List.getElem?_inj hlt hnodup).mp ?_)
  rw [List.getElem?_map, List.getElem?_map, hf, hg, Option.map_some, Option.map_some, hboard,
    hreceiver]

theorem IsApart.speculative_ne (hw : w.IsApart) {i k : Nat} {f g : Speculative}
    (hf : w.speculative[i]? = some f) (hg : w.speculative[k]? = some g) (hik : k ≠ i) :
    ¬ (g.board = f.board ∧ g.requestReceiver = f.requestReceiver) ∧
      ¬ (g.roster = f.roster ∧ g.rosterReceiver = f.rosterReceiver) := by
  have hlt : k < w.speculative.length := (List.getElem?_eq_some_iff.mp hg).1
  refine ⟨?_, ?_⟩
  · rintro ⟨hboard, hreceiver⟩
    have hnodup := (List.nodup_append.mp hw.boards).2.1
    refine hik ((List.getElem?_inj (by rwa [List.length_map]) hnodup).mp ?_)
    rw [List.getElem?_map, List.getElem?_map, hf, hg, Option.map_some, Option.map_some, hboard,
      hreceiver]
  · rintro ⟨hroster, hreceiver⟩
    refine hik ((List.getElem?_inj (by rwa [rosterListeners, List.length_map]) hw.rosters).mp ?_)
    rw [rosterListeners, List.getElem?_map, List.getElem?_map, hf, hg, Option.map_some,
      Option.map_some, hroster, hreceiver]

theorem IsApart.dedicated_speculative_ne (hw : w.IsApart) {i k : Nat} {f : Dedicated}
    {g : Speculative} (hf : w.dedicated[i]? = some f) (hg : w.speculative[k]? = some g) :
    ¬ (g.board = f.board ∧ g.requestReceiver = f.receiver) := by
  rintro ⟨hboard, hreceiver⟩
  refine (List.nodup_append.mp hw.boards).2.2 (f.board, f.receiver)
    (List.mem_map_of_mem (List.mem_of_getElem? hf)) (g.board, g.requestReceiver)
      (List.mem_map_of_mem (f := fun g : Speculative => (g.board, g.requestReceiver))
        (List.mem_of_getElem? hg)) ?_
  rw [hboard, hreceiver]

/-- Whose doing a transition is: that of a dedicated fulfiller, of the tasks of a speculative one, or of
the client. -/
inductive DoneBy (w : World) (actor : Option Task) (events : List Event) (w' : World) : Prop
  | dedicated {k : Nat} {g : Dedicated} {isOver : Bool} (hactor : actor = some (.dedicated k))
      (hg : w.dedicated[k]? = some g)
      (hacts : w.scene.ActSequence (Dedicated.May isOver g.board g.receiver) events w'.scene)
      (hlocks : w'.locks = w.locks)
  | speculative {k : Nat} {g : Speculative} (hactor : actor.any (Task.isOfTeam k) = true)
      (hg : w.speculative[k]? = some g)
      (hacts : w.scene.ActSequence (Speculative.May g.subscription) events w'.scene)
      (hlocks : w'.locks = w.locks)
  | client (hactor : ∀ t, actor = some t → t.isErrand = true)
      (hacts : w.scene.ActSequence w.May events w'.scene)
      (hlocks : ∀ b id, w'.locked b id + events.count (.changed b (.unreserved id)) =
        w.locked b id + events.count (.changed b (.reserved id)))

theorem Transition.doneBy (h : Transition chance w actor events w') : DoneBy w actor events w' := by
  cases h with
  | dedicated hf _ hsteps => exact .dedicated rfl hf hsteps.acts rfl
  | @speculative i _ _ _ _ hf _ haccounts =>
    exact .speculative (k := i) (by simp [Task.isOfTeam]) hf haccounts.acts rfl
  | @attempt i _ _ _ _ _ hf _ _ haccounts =>
    exact .speculative (k := i) (by simp [Task.isOfTeam]) hf haccounts.acts rfl
  | client hactor hclient =>
    refine .client (fun t ht => ?_) hclient.acts hclient.locks
    obtain ⟨n, rfl⟩ := hactor t ht
    rfl
  | employed _ _ _ _ _ hacts => exact .client (by simp) hacts fun _ _ => rfl
  | engaged _ _ _ _ _ _ hacts => exact .client (by simp) hacts fun _ _ => rfl

/-- A client that reserves nothing holds nothing reserved, and gives nothing up. -/
theorem DoneBy.locked_eq_zero (h : DoneBy w actor events w') {b : Nat}
    (hreserved : ∀ e ∈ events, e.reservesIn b = true → actor.any (!·.isErrand) = true)
    (hlocked : ∀ id, w.locked b id = 0) :
    (∀ id, w'.locked b id = 0) ∧
      ((∀ t, actor = some t → t.isErrand = true) → ∀ id, .changed b (.unreserved id) ∉ events) := by
  -- The tasks of fulfillers leave the reservations of the client alone.
  have hsame : ∀ t, actor = some t → t.isErrand = false → w'.locks = w.locks →
      (∀ id, w'.locked b id = 0) ∧
        ((∀ t, actor = some t → t.isErrand = true) → ∀ id, .changed b (.unreserved id) ∉ events) :=
    fun t ht hnot hlocks => by
      refine ⟨fun id => ?_, fun hclient => ?_⟩
      · rw [locked, hlocks]
        exact hlocked id
      · exact absurd ((hclient t ht).symm.trans hnot) (by simp)
  cases h with
  | dedicated hactor _ _ hlocks => exact hsame _ hactor rfl hlocks
  | speculative hactor _ _ hlocks =>
    obtain ⟨t, ht, hteam⟩ := (Option.any_eq_true _ _).mp hactor
    refine hsame t ht ?_ hlocks
    cases t with
    | errand n => exact absurd hteam Bool.false_ne_true
    | _ => rfl
  | client hactor _ hlocks =>
    have hnone : ∀ id, events.count (.changed b (.reserved id)) = 0 := fun id => by
      refine List.count_eq_zero.mpr fun hmem => ?_
      obtain ⟨t, ht, hnot⟩ := (Option.any_eq_true _ _).mp (hreserved _ hmem (beq_self_eq_true b))
      exact absurd hnot (by simp [hactor t ht])
    refine ⟨fun id => ?_, fun _ id => ?_⟩
    · have hbalance := hlocks b id
      have hbefore := hlocked id
      have hzero := hnone id
      omega
    · rw [← List.count_eq_zero]
      have hbalance := hlocks b id
      have hbefore := hlocked id
      have hzero := hnone id
      omega

end World

/-! ### What others do -/

section Spares

variable {w : World} {st : Stage} {act : Act} {b r : Nat}

/-- A dedicated fulfiller spares the receivers of others. -/
theorem Dedicated.May.sparesBoard {isOver : Bool} {b' r' : Nat} (hmay : May isOver b' r' st act)
    (hne : ¬ (b' = b ∧ r' = r)) : act.SparesBoard b r st := by
  cases act with
  | changed board change =>
    cases change with
    | unreserved id =>
      obtain ⟨rfl, hdone⟩ := hmay
      rintro rfl
      exact hdone
    | _ => trivial
  | looked board receiver =>
    obtain ⟨rfl, rfl⟩ := hmay
    exact hne
  | left board receiver =>
    obtain ⟨-, rfl, rfl⟩ := hmay
    exact hne
  | _ => trivial

theorem Dedicated.May.sparesRoster {isOver : Bool} {b' r' i k : Nat}
    (hmay : May isOver b' r' st act) : act.SparesRoster i k := by
  cases act with
  | lookedAtRoster roster receiver => exact absurd hmay id
  | leftRoster roster receiver => exact absurd hmay id
  | _ => trivial

/-- A speculative fulfiller spares the receivers of others, and gives up no reservation. -/
theorem Speculative.May.sparesBoard {subscription : Subscription} (hmay : May subscription st act)
    (hne : ¬ (subscription.board = b ∧ subscription.requestReceiver = r)) : act.SparesBoard b r st := by
  cases act with
  | changed board change =>
    cases change with
    | unreserved n => exact absurd hmay fun h => h
    | _ => trivial
  | looked board receiver =>
    obtain ⟨rfl, rfl⟩ := hmay
    exact hne
  | left board receiver =>
    obtain ⟨rfl, rfl⟩ := hmay
    exact hne
  | _ => trivial

/-- A speculative fulfiller spares the receivers of others. -/
theorem Speculative.May.sparesRoster {subscription : Subscription} {i k : Nat}
    (hmay : May subscription st act)
    (hne : ¬ (subscription.roster = i ∧ subscription.rosterReceiver = k)) : act.SparesRoster i k := by
  cases act with
  | lookedAtRoster roster receiver =>
    obtain ⟨rfl, rfl⟩ := hmay
    exact hne
  | leftRoster roster receiver =>
    obtain ⟨rfl, rfl⟩ := hmay
    exact hne
  | _ => trivial

/-- The client spares the receivers of fulfillers. -/
theorem World.May.sparesBoard (hmay : w.May st act) (howned : w.isOwned b r = true)
    (hkeeps : ∀ id, .changed b (.unreserved id) ∉ act.events) : act.SparesBoard b r st := by
  cases act with
  | changed board change =>
    cases change with
    | unreserved id =>
      rintro rfl
      exact absurd (List.mem_singleton_self _) (hkeeps id)
    | _ => trivial
  | looked board receiver =>
    rintro ⟨rfl, rfl⟩
    exact absurd (howned.symm.trans hmay) (by simp)
  | left board receiver =>
    rintro ⟨rfl, rfl⟩
    exact absurd (howned.symm.trans hmay) (by simp)
  | _ => trivial

/-- The client spares the receivers of fulfillers. -/
theorem World.May.sparesRoster {i k : Nat} (hmay : w.May st act)
    (howned : w.isOwnedOfRoster i k = true) : act.SparesRoster i k := by
  cases act with
  | lookedAtRoster roster receiver =>
    rintro ⟨rfl, rfl⟩
    exact absurd (howned.symm.trans hmay) (by simp)
  | leftRoster roster receiver =>
    rintro ⟨rfl, rfl⟩
    exact absurd (howned.symm.trans hmay) (by simp)
  | _ => trivial

end Spares

namespace World.DoneBy

variable {w w' : World} {actor : Option Task} {events : List Event} {i : Nat}

/-- What a dedicated fulfiller does not do itself is done by another one, which spares its receiver, or by
the client, who does not own that. -/
theorem dedicatedSpared (hw : w.IsApart) (h : DoneBy w actor events w') {f : Dedicated}
    (hf : w.dedicated[i]? = some f) (hactor : actor ≠ some (.dedicated i)) :
    (∃ may, w.scene.ActSequence may events w'.scene ∧
        ∀ st act, may st act → act.SparesBoard f.board f.receiver st) ∨
      ((∀ t, actor = some t → t.isErrand = true) ∧ w.scene.ActSequence w.May events w'.scene ∧
        w.isOwned f.board f.receiver = true) := by
  cases h with
  | @dedicated k g isOver hk hg hacts _ =>
    have hki : k ≠ i := fun hki => hactor (hki ▸ hk)
    exact .inl ⟨_, hacts, fun _ _ hmay => hmay.sparesBoard (hw.dedicated_ne hf hg hki)⟩
  | speculative _ hg hacts _ =>
    exact .inl ⟨_, hacts, fun _ _ hmay => hmay.sparesBoard (hw.dedicated_speculative_ne hf hg)⟩
  | client hclient hacts _ =>
    refine .inr ⟨hclient, hacts, ?_⟩
    refine (Bool.or_eq_true _ _).mpr (.inl (List.any_eq_true.mpr ⟨f, List.mem_of_getElem? hf, ?_⟩))
    simp

/-- What a speculative fulfiller does not do itself is done by another one, which spares its receivers, or
by the client, who does not own those. -/
theorem speculativeSpared (hw : w.IsApart) (h : DoneBy w actor events w') {f : Speculative}
    (hf : w.speculative[i]? = some f) (hactor : actor.any (Task.isOfTeam i) = false) :
    (∃ may, w.scene.ActSequence may events w'.scene ∧ ∀ st act, may st act → act.Spares f.subscription st) ∨
      ((∀ t, actor = some t → t.isErrand = true) ∧ w.scene.ActSequence w.May events w'.scene ∧
        w.isOwned f.board f.requestReceiver = true ∧
        w.isOwnedOfRoster f.roster f.rosterReceiver = true) := by
  cases h with
  | @dedicated k g isOver _ hg hacts _ =>
    have hne : ¬ (g.board = f.board ∧ g.receiver = f.requestReceiver) := fun h =>
      hw.dedicated_speculative_ne hg hf ⟨h.1.symm, h.2.symm⟩
    exact .inl ⟨_, hacts, fun _ _ hmay => ⟨hmay.sparesBoard hne, hmay.sparesRoster⟩⟩
  | @speculative k g hk hg hacts _ =>
    have hki : k ≠ i := by
      rintro rfl
      exact absurd (hk.symm.trans hactor) (by simp)
    obtain ⟨hboard, hroster⟩ := hw.speculative_ne hf hg hki
    exact .inl ⟨_, hacts, fun _ _ hmay => ⟨hmay.sparesBoard hboard, hmay.sparesRoster hroster⟩⟩
  | client hclient hacts _ =>
    refine .inr ⟨hclient, hacts, ?_, ?_⟩
    · refine (Bool.or_eq_true _ _).mpr (.inr (List.any_eq_true.mpr ⟨f, List.mem_of_getElem? hf, ?_⟩))
      simp
    · refine List.any_eq_true.mpr ⟨f, List.mem_of_getElem? hf, ?_⟩
      simp

/-- Whatever a dedicated fulfiller does not do itself spares its receiver. -/
theorem sparesDedicated (hw : w.IsApart) (h : DoneBy w actor events w') {f : Dedicated}
    (hf : w.dedicated[i]? = some f) (hactor : actor ≠ some (.dedicated i))
    (hkeeps : (∀ t, actor = some t → t.isErrand = true) →
      ∀ id, .changed f.board (.unreserved id) ∉ events) :
    ∃ may, w.scene.ActSequence may events w'.scene ∧
      ∀ st act, may st act → act.SparesBoard f.board f.receiver st := by
  rcases h.dedicatedSpared hw hf hactor with hothers | ⟨hclient, hacts, howned⟩
  · exact hothers
  · exact ⟨_, hacts.told, fun _ _ hmay => hmay.1.sparesBoard howned
      fun id hid => hkeeps hclient id (hmay.2 hid)⟩

/-- Whatever a speculative fulfiller does not do itself spares its receivers. -/
theorem sparesSpeculative (hw : w.IsApart) (h : DoneBy w actor events w') {f : Speculative}
    (hf : w.speculative[i]? = some f) (hactor : actor.any (Task.isOfTeam i) = false)
    (hkeeps : (∀ t, actor = some t → t.isErrand = true) →
      ∀ id, .changed f.board (.unreserved id) ∉ events) :
    ∃ may, w.scene.ActSequence may events w'.scene ∧ ∀ st act, may st act → act.Spares f.subscription st := by
  rcases h.speculativeSpared hw hf hactor with hothers | ⟨hclient, hacts, howned, hrosterOwned⟩
  · exact hothers
  · exact ⟨_, hacts.told, fun _ _ hmay => ⟨hmay.1.sparesBoard howned
      fun id hid => hkeeps hclient id (hmay.2 hid), hmay.1.sparesRoster hrosterOwned⟩⟩

end World.DoneBy

end CoreBroker
