import CoreBroker.Proofs.Channel.Sending
import CoreBroker.Proofs.Scene.Acts
import CoreBroker.Scene.Members
import CoreBroker.Scene.Requests
set_option autoImplicit false

/-!
# Following a roster

A call that changes a roster answers so and announces the change; one that is turned away changes nothing
and announces nothing.  What is announced says of itself what the roster has become, and it can be checked:
whoever knows the members at some moment and makes each change that it is told of has the members at every
later one.
-/

namespace CoreBroker

/-- The calls that may change a roster. -/
inductive RosterCall where
  | add (p : ProviderRef)
  | remove (id : String)
  deriving DecidableEq, Repr

/-- What can happen to a roster. -/
inductive RosterMove where
  | call (c : RosterCall)
  /-- Somebody begins to listen. -/
  | join
  /-- A receiver takes what there is for it. -/
  | receive (receiver : Nat)
  /-- A receiver lets go of what there is for it. -/
  | drain (receiver : Nat)
  | leave (receiver : Nat)
  | attach (sink : Trace.Sink)
  /-- Anything else that may go on, which leaves the rosters as they are. -/
  | meanwhile (scene : Scene)

/-- The change that a call makes to a roster with these members, if it makes one. -/
def RosterCall.change? (members : List ProviderRef) : RosterCall → Option RosterChange
  | .add p =>
    if p.id ∈ members.map (·.id) then none
    else some { current := members ++ [p], added := some p }
  | .remove id =>
    (members.find? (·.id == id)).map fun p => { current := members.erase p, removed := some p }

/-- The members after a change, for somebody who knows those before and is told who came or went. -/
def RosterChange.replay (members : List ProviderRef) (change : RosterChange) : List ProviderRef :=
  match change.added, change.removed with
  | some p, _ => members ++ [p]
  | none, some p => members.erase p
  | none, none => members

/-- Somebody came or somebody went, and not both. -/
def RosterChange.IsProper (change : RosterChange) : Prop :=
  change.added.isSome ≠ change.removed.isSome

/-- The change says of the call who came or who went. -/
def RosterChange.TellsOf (change : RosterChange) : RosterCall → Prop
  | .add p => change.added = some p ∧ change.removed = none
  | .remove id => change.added = none ∧ change.removed.map (·.id) = some id

namespace RosterCall

variable {members : List ProviderRef} {c : RosterCall} {change : RosterChange}

/-- All that a call can change: a provider with a free id is appended, or the one with an id is taken out. -/
theorem of_change? (hchange : c.change? members = some change) :
    (∃ p, c = .add p ∧ p.id ∉ members.map (·.id) ∧
        change = { current := members ++ [p], added := some p }) ∨
      ∃ p ∈ members, c = .remove p.id ∧ change = { current := members.erase p, removed := some p } := by
  cases c with
  | add p =>
    by_cases htaken : p.id ∈ members.map (·.id)
    · exact absurd hchange (by simp [change?, List.mem_map.mp htaken])
    · simp only [change?, if_neg htaken, Option.some.injEq] at hchange
      exact .inl ⟨p, rfl, htaken, hchange.symm⟩
  | remove id =>
    obtain ⟨p, hfound, hthis⟩ := Option.map_eq_some_iff.mp hchange
    have hid : p.id = id := by simpa using List.find?_some hfound
    exact .inr ⟨p, List.mem_of_find?_eq_some hfound, hid ▸ rfl, hthis.symm⟩

/-- A change can be replayed from what it says of who came or went. -/
theorem replay_change? (hchange : c.change? members = some change) :
    change.replay members = change.current := by
  obtain ⟨p, rfl, -, rfl⟩ | ⟨p, -, rfl, rfl⟩ := of_change? hchange
  · rfl
  · rfl

theorem tellsOf_change? (hchange : c.change? members = some change) : change.TellsOf c := by
  obtain ⟨p, rfl, -, rfl⟩ | ⟨p, -, rfl, rfl⟩ := of_change? hchange
  · exact ⟨rfl, rfl⟩
  · exact ⟨rfl, rfl⟩

theorem isProper_change? (hchange : c.change? members = some change) : change.IsProper := by
  obtain ⟨p, rfl, -, rfl⟩ | ⟨p, -, rfl, rfl⟩ := of_change? hchange
  · exact Bool.noConfusion
  · exact Bool.noConfusion

/-- No change leaves two members with one id. -/
theorem nodup_change? (hids : (members.map (·.id)).Nodup) (hchange : c.change? members = some change) :
    (change.current.map (·.id)).Nodup := by
  obtain ⟨p, -, hfree, rfl⟩ | ⟨p, -, -, rfl⟩ := of_change? hchange
  · rw [List.map_append, List.map_singleton]
    refine List.nodup_append.mpr ⟨hids, List.nodup_singleton _, ?_⟩
    rintro _ hmem _ hnew rfl
    exact hfree (List.mem_singleton.mp hnew ▸ hmem)
  · exact hids.sublist (List.erase_sublist.map _)

theorem isSome_change?_add (members : List ProviderRef) (p : ProviderRef) :
    ((add p).change? members).isSome = true ↔ p.id ∉ members.map (·.id) := by
  by_cases htaken : p.id ∈ members.map (·.id)
  · simp only [change?, htaken, not_true]
    simp
  · simp only [change?, htaken, not_false_iff]
    simp

theorem isSome_change?_remove (members : List ProviderRef) (id : String) :
    ((remove id).change? members).isSome = true ↔ id ∈ members.map (·.id) := by
  simp [change?, List.find?_isSome]

end RosterCall

namespace Roster

variable {roster : Roster}

/-- The roster after a change. -/
def after (roster : Roster) (change : RosterChange) : Roster :=
  { roster with members := change.current }.announce change

theorem add?_eq (roster : Roster) (p : ProviderRef) :
    roster.add? p = ((RosterCall.add p).change? roster.members).map roster.after := by
  have hhas : roster.has p.id = true ↔ p.id ∈ roster.members.map (·.id) := by
    simp [has]
  simp only [add?, RosterCall.change?]
  by_cases htaken : p.id ∈ roster.members.map (·.id)
  · rw [if_pos (hhas.mpr htaken), if_pos htaken]
    rfl
  · rw [if_neg (mt hhas.mp htaken), if_neg htaken]
    rfl

/-- The first member with an id is the one that is taken out. -/
theorem eraseP_eq_erase {members : List ProviderRef} {id : String} {p : ProviderRef}
    (hfound : members.find? (·.id == id) = some p) :
    members.eraseP (·.id == id) = members.erase p := by
  induction members with
  | nil => exact absurd hfound (by simp)
  | cons q rest ih =>
    by_cases hid : (q.id == id) = true
    · have hqp : q = p := by simpa [hid] using hfound
      rw [List.eraseP_cons, hid, cond_true, hqp, List.erase_cons_head]
    · have hrest : rest.find? (·.id == id) = some p := by simpa [hid] using hfound
      have hpid : (p.id == id) = true := by simpa using List.find?_some hrest
      have hne : ¬ (q == p) = true := fun hqp => hid (eq_of_beq hqp ▸ hpid)
      rw [List.eraseP_cons, Bool.eq_false_iff.mpr hid, cond_false, List.erase_cons_tail hne, ih hrest]

theorem remove?_eq (roster : Roster) (id : String) :
    roster.remove? id = ((RosterCall.remove id).change? roster.members).map roster.after := by
  simp only [remove?, RosterCall.change?]
  cases hfound : roster.members.find? (·.id == id) with
  | none => rfl
  | some p =>
    simp only [eraseP_eq_erase hfound]
    rfl

end Roster

namespace Scene

variable {s : Scene} {r : Nat} {roster : Roster}

/-- What a call to the roster `r` answers, and what it does. -/
def callRoster (s : Scene) (r : Nat) : RosterCall → Bool × Scene
  | .add p => s.addMember r p
  | .remove id => s.removeMember r id

/-- What a move does. -/
def moveRoster (s : Scene) (r : Nat) : RosterMove → Scene
  | .call c => (s.callRoster r c).2
  | .join => (s.subscribeRoster r).2
  | .receive receiver => s.modifyRoster r fun roster =>
      { roster with changes := (roster.changes.pollAll receiver).2 }
  | .drain receiver => s.drainRoster r receiver
  | .leave receiver => s.unsubscribeRoster r receiver
  | .attach sink => s.modifyRoster r fun roster => { roster with sink }
  | .meanwhile scene => { scene with rosters := s.rosters }

/-- What moves do, one after the other. -/
def moveRosterAll (s : Scene) (r : Nat) (moves : List RosterMove) : Scene :=
  moves.foldl (·.moveRoster r ·) s

/-- The members of the roster `r`. -/
def rosterMembers (s : Scene) (r : Nat) : List ProviderRef :=
  ((s.rosters[r]?).map (·.members)).getD []

/-- What a receiver of the roster `r` finds when it looks. -/
def found (s : Scene) (r receiver : Nat) : List (Received RosterChange) :=
  ((s.rosters[r]?).map fun roster => (roster.changes.pollAll receiver).1).getD []

/-- What a call publishes: what somebody is told who begins to listen just before it. -/
def publishedBy (s : Scene) (r : Nat) (c : RosterCall) : List (Received RosterChange) :=
  ((s.subscribeRoster r).2.callRoster r c).2.found r (s.subscribeRoster r).1

/-- What the calls among the moves publish, oldest first. -/
def publishedByAll (s : Scene) (r : Nat) : List RosterMove → List (Received RosterChange)
  | [] => []
  | .call c :: moves => s.publishedBy r c ++ publishedByAll (s.moveRoster r (.call c)) r moves
  | m :: moves => publishedByAll (s.moveRoster r m) r moves

/-- What the calls among the moves answer, oldest first. -/
def answers (s : Scene) (r : Nat) : List RosterMove → List Bool
  | [] => []
  | .call c :: moves => (s.callRoster r c).1 :: answers (s.moveRoster r (.call c)) r moves
  | m :: moves => answers (s.moveRoster r m) r moves

/-! ## One move -/

/-- A call that is turned away does nothing at all. -/
theorem callRoster_refused {c : RosterCall} (hrefused : (s.callRoster r c).1 = false) :
    (s.callRoster r c).2 = s := by
  cases c with
  | add p =>
    simp only [callRoster, addMember] at hrefused ⊢
    cases hroster : s.rosters[r]? with
    | none => rfl
    | some roster =>
      simp only [hroster] at hrefused ⊢
      cases hadd : roster.add? p with
      | none => rfl
      | some roster' => exact absurd hrefused (by simp [hadd])
  | remove id =>
    simp only [callRoster, removeMember] at hrefused ⊢
    cases hroster : s.rosters[r]? with
    | none => rfl
    | some roster =>
      simp only [hroster] at hrefused ⊢
      cases hremove : roster.remove? id with
      | none => rfl
      | some roster' => exact absurd hrefused (by simp [hremove])

theorem rosters_reportMember (s : Scene) (sink : Trace.Sink) (deed id : String) :
    (s.reportMember sink deed id).rosters = s.rosters :=
  ((s.logsOnly_trace sink rosterSource (.ofText (deed ++ " provider " ++ id))).trans
    (Scene.logsOnly_report _ .debug _ _)).same (·.rosters) fun _ _ _ => rfl

theorem roster_setRoster (hroster : s.rosters[r]? = some roster) (roster' : Roster) :
    (s.setRoster r roster').rosters[r]? = some roster' := by
  simp [setRoster, modifyRoster, hroster]

/-- A call that makes a change answers so and leaves the roster changed; one that makes none is turned
away. -/
theorem callRoster_eq (hroster : s.rosters[r]? = some roster) (c : RosterCall) :
    (s.callRoster r c).1 = (c.change? roster.members).isSome ∧
      (s.callRoster r c).2.rosters[r]? =
        some (((c.change? roster.members).map roster.after).getD roster) := by
  cases c with
  | add p =>
    simp only [callRoster, addMember, hroster, Roster.add?_eq]
    cases hchange : (RosterCall.add p).change? roster.members with
    | none => exact ⟨rfl, hroster⟩
    | some change =>
      refine ⟨rfl, ?_⟩
      simp only [Option.map_some, Option.getD_some, rosters_reportMember]
      exact roster_setRoster hroster _
  | remove id =>
    simp only [callRoster, removeMember, hroster, Roster.remove?_eq]
    cases hchange : (RosterCall.remove id).change? roster.members with
    | none => exact ⟨rfl, hroster⟩
    | some change =>
      refine ⟨rfl, ?_⟩
      simp only [Option.map_some, Option.getD_some, rosters_reportMember]
      exact roster_setRoster hroster _

theorem subscribeRoster_eq (hroster : s.rosters[r]? = some roster) :
    (s.subscribeRoster r).1 = roster.changes.subscribe.1 ∧
      (s.subscribeRoster r).2.rosters[r]? = some { roster with changes := roster.changes.subscribe.2 } := by
  simp [subscribeRoster, hroster, modifyRoster]

/-- The changes that a move makes to a roster with these members. -/
def changesBy (members : List ProviderRef) : RosterMove → List RosterChange
  | .call c => (c.change? members).toList
  | _ => []

/-- What a move does to a roster: it makes its changes, which are announced, and receivers come and go and
get what there is for them. -/
theorem moveRoster_roster (hroster : s.rosters[r]? = some roster) (m : RosterMove) :
    ∃ roster', (s.moveRoster r m).rosters[r]? = some roster' ∧
      roster'.members = (changesBy roster.members m).foldl RosterChange.replay roster.members ∧
      roster.changes.Announces (changesBy roster.members m) roster'.changes := by
  have hmodify : ∀ f : Roster → Roster, (s.modifyRoster r f).rosters[r]? = some (f roster) := by
    intro f
    simp [modifyRoster, hroster]
  cases m with
  | call c =>
    obtain ⟨-, hafter⟩ := callRoster_eq hroster c
    refine ⟨_, hafter, ?_⟩
    simp only [changesBy]
    cases hchange : c.change? roster.members with
    | none => exact ⟨rfl, .refl⟩
    | some change => exact ⟨(RosterCall.replay_change? hchange).symm, .announced .refl change⟩
  | join => exact ⟨_, (subscribeRoster_eq hroster).2, rfl, .joined .refl⟩
  | receive receiver => exact ⟨_, hmodify _, rfl, .looked .refl (roster.changes.pollAll_attends receiver)⟩
  | drain receiver => exact ⟨_, hmodify _, rfl, .looked .refl (roster.changes.drain_attends receiver)⟩
  | leave receiver => exact ⟨_, hmodify _, rfl, .left .refl receiver⟩
  | attach sink => exact ⟨_, hmodify _, rfl, .refl⟩
  | meanwhile scene => exact ⟨_, hroster, rfl, .refl⟩

/-- The roster `r` is in order: its members have ids of their own, and its channel can be relied on. -/
structure KeepsRoster (s : Scene) (r : Nat) (roster : Roster) : Prop where
  present : s.rosters[r]? = some roster
  ids : (roster.members.map (·.id)).Nodup
  fits : roster.changes.Fits
  sound : roster.changes.Sound
  limit : roster.changes.window.limit = defaultChannelCapacity

theorem keepsRoster_new (hnew : s.rosters[r]? = some {}) : s.KeepsRoster r {} where
  present := hnew
  ids := List.nodup_nil
  fits := Channel.fits_new _
  sound := Channel.sound_new _
  limit := by decide +kernel

namespace KeepsRoster

/-- Every move keeps a roster in order. -/
theorem move (h : s.KeepsRoster r roster) (m : RosterMove) :
    ∃ roster', (s.moveRoster r m).KeepsRoster r roster' ∧
      roster'.members = (changesBy roster.members m).foldl RosterChange.replay roster.members ∧
      roster.changes.Announces (changesBy roster.members m) roster'.changes := by
  obtain ⟨roster', hroster, hmembers, hannounces⟩ := moveRoster_roster h.present m
  refine ⟨roster', ⟨hroster, ?_, hannounces.fits h.fits, hannounces.sound h.sound, ?_⟩, hmembers, hannounces⟩
  · rw [hmembers]
    cases m with
    | call c =>
      simp only [changesBy]
      cases hchange : c.change? roster.members with
      | none => exact h.ids
      | some change =>
        have hreplay := RosterCall.replay_change? hchange
        simp only [Option.toList_some, List.foldl_cons, List.foldl_nil, hreplay]
        exact RosterCall.nodup_change? h.ids hchange
    | _ => exact h.ids
  · rw [hannounces.limit_eq, h.limit]

/-- A call publishes the change that it makes, and nothing else. -/
theorem publishedBy_eq (h : s.KeepsRoster r roster) (c : RosterCall) :
    s.publishedBy r c = (c.change? roster.members).toList.map .value := by
  obtain ⟨hreceiver, hjoined⟩ := subscribeRoster_eq h.present
  obtain ⟨-, hafter⟩ := callRoster_eq hjoined c
  have hfits : roster.changes.subscribe.2.Fits := ⟨h.fits.limit_pos, h.fits.size_le, h.fits.size_le_sent⟩
  have hserves := Channel.serves_subscribe h.sound
  have hcursor := Channel.cursor_subscribe h.sound
  have hissued : roster.changes.subscribe.1 < roster.changes.subscribe.2.issued := Nat.lt_succ_self _
  unfold publishedBy found
  rw [hafter, hreceiver]
  cases hchange : c.change? roster.members with
  | none =>
    exact Channel.Announces.refl.received hfits hissued hserves hcursor (Nat.zero_le _)
  | some change =>
    exact (Channel.Announces.refl.announced change).received hfits hissued
      (Channel.serves_announce hserves change)
      ((Channel.cursor_announce hserves change).trans hcursor) h.fits.limit_pos

end KeepsRoster

/-! ## Many moves -/

/-- The changes that the moves make to a roster with these members, oldest first. -/
def changesByAll (members : List ProviderRef) : List RosterMove → List RosterChange
  | [] => []
  | m :: moves =>
    changesBy members m ++ changesByAll ((changesBy members m).foldl RosterChange.replay members) moves

/-- Changes each of which says what the members are after it, if it is made to the members before it. -/
def Follow (members : List ProviderRef) : List RosterChange → Prop
  | [] => True
  | change :: changes => change.replay members = change.current ∧ change.IsProper ∧
      Follow change.current changes

theorem follow_changesByAll (moves : List RosterMove) :
    ∀ members : List ProviderRef, Follow members (changesByAll members moves) := by
  induction moves with
  | nil => exact fun _ => trivial
  | cons m moves ih =>
    intro members
    cases m with
    | call c =>
      simp only [changesByAll, changesBy]
      cases hchange : c.change? members with
      | none => exact ih members
      | some change =>
        have hreplay := RosterCall.replay_change? hchange
        have hrest := ih change.current
        simp only [Option.toList_some, List.foldl_cons, List.foldl_nil, hreplay, List.singleton_append]
        exact ⟨hreplay, RosterCall.isProper_change? hchange, hrest⟩
    | _ => exact ih members

/-- Whoever makes the changes up to one of them has the members that this one tells of. -/
theorem Follow.replay {earlier : List RosterChange} {change : RosterChange} {later : List RosterChange}
    {members : List ProviderRef} (h : Follow members (earlier ++ change :: later)) :
    (earlier ++ [change]).foldl RosterChange.replay members = change.current := by
  induction earlier generalizing members with
  | nil => exact h.1
  | cons first earlier ih =>
    obtain ⟨hfirst, -, hrest⟩ := h
    rw [List.cons_append, List.foldl_cons, hfirst]
    exact ih hrest

theorem Follow.isProper {changes : List RosterChange} {members : List ProviderRef}
    (h : Follow members changes) : ∀ change ∈ changes, change.IsProper := by
  induction changes generalizing members with
  | nil => exact fun _ hmem => absurd hmem List.not_mem_nil
  | cons first changes ih =>
    intro change hmem
    rcases List.mem_cons.mp hmem with rfl | hrest
    · exact h.2.1
    · exact ih h.2.2 change hrest

/-- What all the moves come to. -/
theorem KeepsRoster.moves (h : s.KeepsRoster r roster) (moves : List RosterMove) :
    ∃ roster', (s.moveRosterAll r moves).KeepsRoster r roster' ∧
      roster'.members = (changesByAll roster.members moves).foldl RosterChange.replay roster.members ∧
      roster.changes.Announces (changesByAll roster.members moves) roster'.changes ∧
      s.publishedByAll r moves = (changesByAll roster.members moves).map .value ∧
      (changesByAll roster.members moves).length = (s.answers r moves).count true := by
  induction moves generalizing s roster with
  | nil => exact ⟨roster, h, rfl, .refl, rfl, rfl⟩
  | cons m moves ih =>
    obtain ⟨roster₁, h₁, hmembers₁, hsends₁⟩ := h.move m
    obtain ⟨roster', h', hmembers', hsends', hpublished, hanswers⟩ := ih h₁
    rw [hmembers₁] at hmembers' hsends' hpublished hanswers
    refine ⟨roster', h', ?_, hsends₁.trans hsends', ?_, ?_⟩
    · rw [hmembers', changesByAll, List.foldl_append]
    · rw [changesByAll, List.map_append, ← hpublished]
      cases m with
      | call c => exact congrArg (· ++ _) (h.publishedBy_eq c)
      | _ => rfl
    · rw [changesByAll, List.length_append, hanswers]
      cases m with
      | call c =>
        obtain ⟨hanswer, -⟩ := callRoster_eq h.present c
        simp only [answers, changesBy, hanswer]
        cases c.change? roster.members <;> simp [Nat.add_comm]
      | _ => exact Nat.zero_add _

/-! ## Following -/

/-- What the roster `r` is, and what every call to it would do next. -/
structure RulesRoster (s : Scene) (r : Nat) : Prop where
  ids : ((s.rosterMembers r).map (·.id)).Nodup
  /-- Whoever comes with a free id is registered, and nobody else. -/
  added : ∀ p, (s.callRoster r (.add p)).1 = true ↔ p.id ∉ (s.rosterMembers r).map (·.id)
  /-- Whoever is there can be removed, and nobody else. -/
  removed : ∀ id, (s.callRoster r (.remove id)).1 = true ↔ id ∈ (s.rosterMembers r).map (·.id)
  /-- A call that is turned away changes nothing and publishes nothing. -/
  refused : ∀ c, (s.callRoster r c).1 = false → (s.callRoster r c).2 = s ∧ s.publishedBy r c = []
  /-- Any other publishes one value, which says what was done, and the members are as it says. -/
  accepted : ∀ c, (s.callRoster r c).1 = true → ∃ change : RosterChange,
    s.publishedBy r c = [.value change] ∧ change.TellsOf c ∧
      change.replay (s.rosterMembers r) = change.current ∧
      (s.callRoster r c).2.rosterMembers r = change.current

/-- What is published while moves are made, and what can be made of it. -/
structure FollowsRoster (s : Scene) (r : Nat) (moves : List RosterMove) (values : List RosterChange) :
    Prop where
  published : s.publishedByAll r moves = values.map .value
  /-- One value to each call that made a change. -/
  calls : values.length = (s.answers r moves).count true
  proper : ∀ change ∈ values, change.IsProper
  /-- Making the changes up to a value comes to the members that the value tells of. -/
  steps : ∀ earlier change later, values = earlier ++ change :: later →
    (earlier ++ [change]).foldl RosterChange.replay (s.rosterMembers r) = change.current
  /-- Making them all comes to the members at the end, in the order in which they were registered. -/
  last : values.foldl RosterChange.replay (s.rosterMembers r) = (s.moveRosterAll r moves).rosterMembers r
  /-- A receiver that had got everything before and has not looked since gets just these values. -/
  received : ∀ roster roster', s.rosters[r]? = some roster →
    (s.moveRosterAll r moves).rosters[r]? = some roster' → ∀ receiver < roster.changes.issued,
      roster'.changes.Serves receiver → roster'.changes.cursor receiver = roster.changes.sent →
      values.length ≤ defaultChannelCapacity →
        (s.moveRosterAll r moves).found r receiver = values.map .value

theorem KeepsRoster.rosterMembers_eq (h : s.KeepsRoster r roster) : s.rosterMembers r = roster.members := by
  simp [rosterMembers, h.present]

theorem KeepsRoster.rules (h : s.KeepsRoster r roster) : s.RulesRoster r where
  ids := by
    rw [h.rosterMembers_eq]
    exact h.ids
  added p := by
    rw [h.rosterMembers_eq, (callRoster_eq h.present _).1]
    exact RosterCall.isSome_change?_add _ p
  removed id := by
    rw [h.rosterMembers_eq, (callRoster_eq h.present _).1]
    exact RosterCall.isSome_change?_remove _ id
  refused c hrefused := by
    refine ⟨callRoster_refused hrefused, ?_⟩
    rw [(callRoster_eq h.present c).1, Option.isSome_eq_false_iff, Option.isNone_iff_eq_none] at hrefused
    rw [h.publishedBy_eq, hrefused]
    rfl
  accepted c haccepted := by
    obtain ⟨hanswer, hafter⟩ := callRoster_eq h.present c
    rw [hanswer] at haccepted
    obtain ⟨change, hchange⟩ := Option.isSome_iff_exists.mp haccepted
    refine ⟨change, ?_, RosterCall.tellsOf_change? hchange, ?_, ?_⟩
    · rw [h.publishedBy_eq, hchange]
      rfl
    · rw [h.rosterMembers_eq]
      exact RosterCall.replay_change? hchange
    · rw [hchange] at hafter
      simp only [rosterMembers, hafter]
      rfl

theorem KeepsRoster.follows (h : s.KeepsRoster r roster) (moves : List RosterMove) :
    s.FollowsRoster r moves (changesByAll roster.members moves) := by
  obtain ⟨roster', h', hmembers, hannounces, hpublished, hanswers⟩ := h.moves moves
  have hfollow := follow_changesByAll moves roster.members
  refine ⟨hpublished, hanswers, hfollow.isProper, ?_, ?_, ?_⟩
  · intro earlier change later hsplit
    rw [h.rosterMembers_eq]
    rw [hsplit] at hfollow
    exact hfollow.replay
  · rw [h.rosterMembers_eq, h'.rosterMembers_eq, hmembers]
  · intro roster₀ roster₁ hroster₀ hroster₁ receiver hreceiver hserves hcursor hlength
    rw [h.present, Option.some.injEq] at hroster₀
    rw [h'.present, Option.some.injEq] at hroster₁
    subst hroster₀ hroster₁
    simp only [found, h'.present, Option.map_some, Option.getD_some]
    exact hannounces.received h.fits hreceiver hserves hcursor (h.limit ▸ hlength)

/-- Whatever has happened to a roster since it was new, no two of its members have one id, a call answers
whether it changed the roster, and just the calls that did publish a value, one each.  From then on the
values published can be replayed, whatever happens: made one after the other, the changes they tell of lead
from the members at that moment to the members that each value tells of, and at last to those that there
are. -/
theorem roster_replayed (hnew : s.rosters[r]? = some {}) (before later : List RosterMove) :
    (s.moveRosterAll r before).RulesRoster r ∧
      ∃ values, (s.moveRosterAll r before).FollowsRoster r later values := by
  obtain ⟨roster, hkeeps, -⟩ := (keepsRoster_new hnew).moves before
  exact ⟨hkeeps.rules, _, hkeeps.follows later⟩

/-- A scene with one roster, on which nobody is yet. -/
def withRoster : Scene := { rosters := [{}] }

/-- Two providers come, one of them leaves and comes back as another object, and some calls are turned
away. -/
def comingsAndGoings : List RosterMove :=
  [.join, .call (.add ⟨0, "a"⟩), .call (.add ⟨1, "b"⟩), .call (.add ⟨2, "a"⟩), .call (.remove "a"),
    .call (.remove "a"), .call (.add ⟨2, "a"⟩)]

theorem roster_replayed_comingsAndGoings :
    withRoster.rosters[0]? = some ({} : Roster) ∧
      (withRoster.moveRosterAll 0 comingsAndGoings).RulesRoster 0 ∧
      (withRoster.moveRosterAll 0 comingsAndGoings).rosterMembers 0 = [⟨1, "b"⟩, ⟨2, "a"⟩] ∧
      ∃ values, withRoster.FollowsRoster 0 comingsAndGoings values ∧ values.length = 4 := by
  have hnew : withRoster.rosters[0]? = some ({} : Roster) := rfl
  obtain ⟨hrules, -⟩ := roster_replayed hnew comingsAndGoings []
  obtain ⟨-, values, hfollows⟩ := roster_replayed hnew [] comingsAndGoings
  exact ⟨hnew, hrules, by decide +kernel, values, hfollows, by rw [hfollows.calls]; decide +kernel⟩

end Scene

end CoreBroker
