import CoreBroker.Proofs.Channel.Sending
set_option autoImplicit false

/-!
# Draining a receiver

What a receiver has to come is a report of the values it missed, if it fell behind, and then the values
kept for it.  Draining looks again and again until nothing is left to be got.  It ends for every state a
channel can come to, it takes everything that was to come to its receiver and nothing else, and the value
announced next is the one its receiver gets next.
-/

namespace CoreBroker

/-- The look brought something: a value, or a report of values missed. -/
def Received.isNews {α : Type} : Received α → Bool
  | .value _ | .lagged _ => true
  | .empty | .closed => false

namespace Channel

variable {α : Type}

/-! ## Histories -/

/-- Something that is done to a channel or to one of its receivers. -/
inductive Operation (α : Type) where
  | announce (a : α)
  | subscribe
  /-- A receiver of the values to come is made from one that exists. -/
  | resubscribe (r : Nat)
  | unsubscribe (r : Nat)
  | poll (r : Nat)
  | drain (r : Nat)
  | close
  deriving DecidableEq, Repr

/-- The channel after an operation.  A closed one announces nothing and can be subscribed to only by way of a
receiver that it has. -/
def perform (c : Channel α) : Operation α → Channel α
  | .announce a => if c.isOpen then (c.announce a).2 else c
  | .subscribe => if c.isOpen then c.subscribe.2 else c
  | .resubscribe r => if (c.cursors.lookup r).isSome then c.subscribe.2 else c
  | .unsubscribe r => c.unsubscribe r
  | .poll r => (c.poll r).2
  | .drain r => (c.drain r).2
  | .close => c.close

/-- The channel after operations, one after the other. -/
def after (c : Channel α) (ops : List (Operation α)) : Channel α := ops.foldl perform c

/-- The operation is a look or the leave of the receiver `r`. -/
def Operation.isOf (r : Nat) : Operation α → Bool
  | .unsubscribe k | .poll k | .drain k => k == r
  | .announce _ | .subscribe | .resubscribe _ | .close => false

/-- The operation announces a value. -/
def Operation.isAnnouncement : Operation α → Bool
  | .announce _ => true
  | _ => false

/-! ## What is to come -/

/-- What is to come to a receiver: how many values it missed, if it missed any, and the values kept for
it, oldest first. -/
def pending (c : Channel α) (r : Nat) : List (Received α) :=
  (if c.cursor r < c.oldest then [.lagged (c.oldest - c.cursor r)] else []) ++
    (c.window.toList.drop (c.cursor r - c.oldest)).map .value

/-- Looks of the receiver `r`, each of which brought something. -/
inductive PollRun (r : Nat) : Channel α → List (Received α) → Channel α → Prop
  | none (c : Channel α) : PollRun r c [] c
  | next {c after : Channel α} {rest : List (Received α)} (hnews : (c.poll r).1.isNews = true)
      (hrest : PollRun r (c.poll r).2 rest after) : PollRun r c ((c.poll r).1 :: rest) after

variable {c : Channel α} {r : Nat}

theorem Fits.length_eq (hc : c.Fits) : c.oldest + c.window.toList.length = c.sent := by
  have hsize := hc.size_le_sent
  rw [Window.length_toList, oldest]
  omega

theorem Sound.cursor_le (hs : c.Sound) (r : Nat) : c.cursor r ≤ c.sent := by
  cases hr : c.cursors.lookup r with
  | none => exact Nat.le_of_eq (cursor_eq_sent_of_lookup hr)
  | some p =>
    obtain ⟨before, after, hsplit, _⟩ := List.lookup_eq_some_iff.mp hr
    have hmem : (r, p) ∈ c.cursors := hsplit ▸ List.mem_append_right _ List.mem_cons_self
    have hle : p ≤ c.sent := (hs _ hmem).2
    simpa [cursor, hr] using hle

/-- A receiver that has got everything finds nothing, and its look changes nothing. -/
theorem poll_of_sent_le (hc : c.Fits) (hr : c.sent ≤ c.cursor r) :
    c.poll r = (if c.isOpen then .empty else .closed, c) := by
  have hlength := hc.length_eq
  have hlag : ¬ c.cursor r < c.oldest := by omega
  have hnone : c.window.toList[c.cursor r - c.oldest]? = none :=
    List.getElem?_eq_none (by omega)
  simp only [poll, hlag, if_false, hnone]

/-- A receiver that lags behind is told how much it missed, and goes on with the oldest value kept. -/
theorem poll_of_lagging (hlag : c.cursor r < c.oldest) :
    c.poll r = (.lagged (c.oldest - c.cursor r), c.setCursor r c.oldest) := by
  simp only [poll, hlag, if_true]

theorem gets_of_lt (hc : c.Fits) (hr : c.cursor r < c.sent) : c.cursor r < c.oldest ∨
    (c.window.toList[c.cursor r - c.oldest]?).isSome := by
  have hlength := hc.length_eq
  refine (Nat.lt_or_ge (c.cursor r) c.oldest).imp_right fun hkept => ?_
  rw [List.getElem?_eq_getElem (by omega)]
  rfl

theorem poll_pollRun (hc : c.Fits) (r : Nat) : Attends r c (c.poll r).2 := by
  rcases Nat.lt_or_ge (c.cursor r) c.sent with hlt | hge
  · exact poll_attends c r hlt
  · rw [poll_of_sent_le hc hge]
    exact Attends.refl r c

theorem serves_of_lt (hr : c.cursor r < c.sent) : c.Serves r := by
  cases hlookup : c.cursors.lookup r with
  | none => exact absurd hr (Nat.not_lt.mpr (Nat.le_of_eq (cursor_eq_sent_of_lookup hlookup).symm))
  | some p => simp [Serves, hlookup]

/-- A look takes the first of what is to come. -/
theorem pending_eq_cons (hc : c.Fits) (hr : c.cursor r < c.sent) :
    (c.poll r).1.isNews = true ∧ c.pending r = (c.poll r).1 :: (c.poll r).2.pending r := by
  have hserves := serves_of_lt hr
  have hmoved : ∀ position, (c.setCursor r position).cursor r = position := fun position => by
    rw [cursor_setCursor]
    exact if_pos hserves
  have hstays : ∀ position, (c.setCursor r position).oldest = c.oldest ∧
      (c.setCursor r position).window = c.window := fun _ => ⟨rfl, rfl⟩
  by_cases hlag : c.cursor r < c.oldest
  · rw [poll_of_lagging hlag]
    refine ⟨rfl, ?_⟩
    have hskip : c.cursor r - c.oldest = 0 := Nat.sub_eq_zero_of_le (Nat.le_of_lt hlag)
    simp only [pending, hmoved, hstays, hlag, hskip, if_true, Nat.lt_irrefl, if_false, Nat.sub_self,
      List.singleton_append, List.nil_append]
  · have hkept := Nat.not_lt.mp hlag
    obtain ⟨a, ha⟩ := Option.isSome_iff_exists.mp ((gets_of_lt hc hr).resolve_left hlag)
    obtain ⟨hlt, hat⟩ := List.getElem?_eq_some_iff.mp ha
    rw [poll_eq hkept ha]
    refine ⟨rfl, ?_⟩
    have hnot : ¬ c.cursor r + 1 < c.oldest := by omega
    have hindex : c.cursor r + 1 - c.oldest = c.cursor r - c.oldest + 1 := by omega
    simp only [pending, hmoved, hstays, hlag, hnot, if_false, List.nil_append]
    rw [List.drop_eq_getElem_cons hlt, List.map_cons, hat, hindex]

theorem pending_of_sent_le (hc : c.Fits) (hr : c.sent ≤ c.cursor r) : c.pending r = [] := by
  have hlength := hc.length_eq
  have hlag : ¬ c.cursor r < c.oldest := by omega
  rw [pending, if_neg hlag, List.drop_eq_nil_of_le (by omega)]
  rfl

/-- What is to come is at most what the window holds, and one report. -/
theorem length_pending_le (hc : c.Fits) (r : Nat) : (c.pending r).length ≤ c.window.limit + 1 := by
  have hsize := hc.size_le
  have hreport : (if c.cursor r < c.oldest then [Received.lagged (α := α) (c.oldest - c.cursor r)]
      else []).length ≤ 1 := by split <;> simp
  rw [pending, List.length_append, List.length_map, List.length_drop, Window.length_toList]
  omega

theorem pending_congr {c c' : Channel α} {k : Nat} (hlookup : c'.cursors.lookup k = c.cursors.lookup k)
    (hsent : c'.sent = c.sent) (hwindow : c'.window = c.window) : c'.pending k = c.pending k := by
  have hcursor : c'.cursor k = c.cursor k := by rw [cursor, cursor, hlookup, hsent]
  have holdest : c'.oldest = c.oldest := by rw [oldest, oldest, hsent, hwindow]
  rw [pending, pending, hcursor, holdest, hwindow]

theorem Attends.pending_eq {before after : Channel α} (h : Attends r before after) {k : Nat}
    (hk : k ≠ r) : after.pending k = before.pending k :=
  pending_congr (h.others k hk) h.sent h.window

/-! ## Draining -/

/-- Draining looks until nothing is left, and gets all that was to come. -/
theorem drain_pollRun (hc : c.Fits) (hs : c.Sound) :
    PollRun r c (c.pending r) (c.drain r).2 ∧ (c.drain r).2.cursor r = c.sent := by
  fun_induction drain c r with
  | case1 c hnext ih =>
    have hattends := poll_pollRun hc r
    obtain ⟨hnews, hcons⟩ := pending_eq_cons hc hnext.1
    obtain ⟨hpolls, hcursor⟩ := ih (hattends.fits hc) (hattends.sound hs)
    rw [hcons, hcursor]
    exact ⟨.next hnews hpolls, hattends.sent⟩
  | case2 c hnone =>
    have hcursor : c.cursor r = c.sent := by
      refine Nat.le_antisymm (hs.cursor_le r) (Nat.le_of_not_lt fun hlt => ?_)
      exact hnone ⟨hlt, gets_of_lt hc hlt⟩
    rw [pending_of_sent_le hc (Nat.le_of_eq hcursor.symm)]
    exact ⟨.none c, hcursor⟩

/-- Draining tells whether the channel is open. -/
theorem drain_isOpen (c : Channel α) (r : Nat) : (c.drain r).1 = c.isOpen := by
  fun_induction drain c r with
  | case1 c h ih => exact ih.trans (poll_attends c r h.1).isOpen
  | case2 c _ => rfl

/-- A receiver that has got everything gets next what is announced next. -/
theorem poll_announce (hc : c.Fits) (hserves : c.Serves r) (hr : c.cursor r = c.sent) (a : α) :
    ((c.announce a).2.poll r).1 = .value a := by
  have hnonempty : c.cursors.isEmpty = false := by
    cases hcursors : c.cursors with
    | nil => simp [Serves, hcursors] at hserves
    | cons e rest => rfl
  have hafter := hc.announce a
  have hlength := hafter.length_eq
  have hsent : (c.announce a).2.sent = c.sent + 1 := by simp [announce, hnonempty]
  have hwindow : (c.announce a).2.window = c.window.push a := by simp [announce, hnonempty]
  have hcursor := cursor_announce hserves a
  -- The value is the last of those kept, and the receiver stands just in front of it.
  have hlast := Window.toList_push c.window a
  rw [hwindow, hsent] at hlength
  rw [hlast, List.length_append, List.length_singleton] at hlength
  refine congrArg Prod.fst (poll_eq (a := a) (by rw [hcursor, hr]; omega) ?_)
  rw [hcursor, hr, hwindow, hlast, List.getElem?_append_right (by omega)]
  rw [List.getElem?_singleton, if_pos (by omega)]

/-! ## Every history -/

/-- What can come of an operation. -/
inductive Outcome (c : Channel α) : Operation α → Channel α → Prop
  /-- It was not possible. -/
  | refused {d : Operation α} (hclose : d ≠ .close) : Outcome c d c
  | announced (a : α) : Outcome c (.announce a) (c.announce a).2
  | joined {d : Operation α} (hclose : d ≠ .close) : Outcome c d c.subscribe.2
  | left (k : Nat) : Outcome c (.unsubscribe k) (c.unsubscribe k)
  | looked {d : Operation α} {k : Nat} {c' : Channel α} (hattends : Attends k c c') (hclose : d ≠ .close)
      (hof : d.isOf k = true) : Outcome c d c'
  | closed : Outcome c .close c.close

theorem perform_outcome (hc : c.Fits) (d : Operation α) : Outcome c d (c.perform d) := by
  cases d with
  | announce a =>
    simp only [perform]
    split
    · exact .announced a
    · exact .refused (by simp)
  | subscribe =>
    simp only [perform]
    split
    · exact .joined (by simp)
    · exact .refused (by simp)
  | resubscribe k =>
    simp only [perform]
    split
    · exact .joined (by simp)
    · exact .refused (by simp)
  | unsubscribe k => exact .left k
  | poll k => exact .looked (poll_pollRun hc k) (by simp) (beq_self_eq_true k)
  | drain k => exact .looked (drain_attends c k) (by simp) (beq_self_eq_true k)
  | close => exact .closed

namespace Outcome

variable {c' : Channel α} {d : Operation α}

theorem fits (h : Outcome c d c') (hc : c.Fits) : c'.Fits := by
  cases h with
  | refused _ => exact hc
  | announced a => exact hc.announce a
  | looked hattends _ _ => exact hattends.fits hc
  | joined _ | left _ | closed => exact ⟨hc.limit_pos, hc.size_le, hc.size_le_sent⟩

theorem sound (h : Outcome c d c') (hs : c.Sound) : c'.Sound := by
  cases h with
  | refused _ => exact hs
  | announced a => exact sound_announce hs a
  | looked hattends _ _ => exact hattends.sound hs
  | joined _ => exact sound_subscribe hs
  | left k => exact sound_unsubscribe hs k
  | closed => exact hs

/-- A channel stays open until it is closed. -/
theorem isOpen_iff (h : Outcome c d c') : c'.isOpen = true ↔ c.isOpen = true ∧ .close ≠ d := by
  cases h with
  | refused hclose => exact (and_iff_left hclose.symm).symm
  | announced a =>
    have hopen : (c.announce a).2.isOpen = c.isOpen := by
      unfold announce
      split <;> rfl
    rw [hopen]
    exact (and_iff_left (by simp)).symm
  | joined hclose => exact (and_iff_left hclose.symm).symm
  | left k => exact (and_iff_left (by simp)).symm
  | looked hattends hclose _ =>
    rw [hattends.isOpen]
    exact (and_iff_left hclose.symm).symm
  | closed => simp [close]

/-- An operation that is no announcement and none of the receiver `r` leaves it where it is. -/
theorem lookup_eq (h : Outcome c d c') (hserves : c.Serves r) (hof : d.isOf r = false)
    (hquiet : d.isAnnouncement = false) :
    c'.cursors.lookup r = c.cursors.lookup r ∧ c'.sent = c.sent := by
  have hother : ∀ {k : Nat}, d.isOf k = true → r ≠ k := fun hk hr =>
    Bool.false_ne_true (hof.symm.trans (hr ▸ hk))
  cases h with
  | announced a => exact absurd hquiet (by simp [Operation.isAnnouncement])
  | joined _ => exact ⟨lookup_subscribe_of_serves hserves, rfl⟩
  | left k => exact ⟨lookup_unsubscribe_ne (hother (beq_self_eq_true k)), rfl⟩
  | looked hattends _ hk => exact ⟨hattends.others r (hother hk), hattends.sent⟩
  | refused _ | closed => exact ⟨rfl, rfl⟩

end Outcome

theorem fits_after (hc : c.Fits) (ops : List (Operation α)) : (c.after ops).Fits := by
  induction ops generalizing c with
  | nil => exact hc
  | cons d ops ih => exact ih ((perform_outcome hc d).fits hc)

theorem sound_after (hc : c.Fits) (hs : c.Sound) (ops : List (Operation α)) : (c.after ops).Sound := by
  induction ops generalizing c with
  | nil => exact hs
  | cons d ops ih => exact ih ((perform_outcome hc d).fits hc) ((perform_outcome hc d).sound hs)

theorem isOpen_after (hc : c.Fits) (ops : List (Operation α)) :
    (c.after ops).isOpen = true ↔ c.isOpen = true ∧ Operation.close ∉ ops := by
  induction ops generalizing c with
  | nil => simp [after]
  | cons d ops ih =>
    have hop := perform_outcome hc d
    rw [show c.after (d :: ops) = (c.perform d).after ops from rfl, ih (hop.fits hc),
      hop.isOpen_iff, List.mem_cons, not_or, and_assoc]

theorem lookup_after (hc : c.Fits) (hserves : c.Serves r) {ops : List (Operation α)}
    (hof : ∀ d ∈ ops, d.isOf r = false ∧ d.isAnnouncement = false) :
    (c.after ops).cursors.lookup r = c.cursors.lookup r ∧ (c.after ops).sent = c.sent := by
  induction ops generalizing c with
  | nil => exact ⟨rfl, rfl⟩
  | cons d ops ih =>
    obtain ⟨hhead, hrest⟩ := List.forall_mem_cons.mp hof
    have hop := perform_outcome hc d
    obtain ⟨hlookup, hsent⟩ := hop.lookup_eq hserves hhead.1 hhead.2
    have hserves' : (c.perform d).Serves r := by
      unfold Serves
      rw [hlookup]
      exact hserves
    obtain ⟨hlookup', hsent'⟩ := ih (hop.fits hc) hserves' hrest
    exact ⟨hlookup'.trans hlookup, hsent'.trans hsent⟩

/-- What draining the receiver `r` of a channel does, as the loop that looks again and again. -/
structure Empties (r : Nat) (c : Channel α) (isOpen : Bool) (c' : Channel α) : Prop where
  /-- It gets just what was to come, look by look. -/
  takes : PollRun r c (c.pending r) c'
  /-- The look after these finds nothing and ends it. -/
  ends : c'.poll r = (if isOpen then .empty else .closed, c')
  /-- It looks no more often than the window holds values, and twice. -/
  looks_le : (c.pending r).length + 1 ≤ c.window.limit + 2
  empty : c'.pending r = []
  /-- To every other receiver the same is to come as before. -/
  others : ∀ k, k ≠ r → c'.pending k = c.pending k
  /-- Whatever else is done by others in between, the value announced next is the next one it gets. -/
  next : ∀ (later : List (Operation α)) (a : α),
    (∀ d ∈ later, d.isOf r = false ∧ d.isAnnouncement = false) →
      (((c'.after later).announce a).2.poll r).1 = .value a

theorem drain_empties (hc : c.Fits) (hs : c.Sound) (hserves : c.Serves r) :
    Empties r c (c.drain r).1 (c.drain r).2 := by
  have hattends := drain_attends c r
  have hfits := hattends.fits hc
  have hserves' := (hattends.serves r).mpr hserves
  obtain ⟨hpolls, hcursor⟩ := drain_pollRun (r := r) hc hs
  rw [← hattends.sent] at hcursor
  refine ⟨hpolls, ?_, Nat.succ_le_succ (length_pending_le hc r),
    pending_of_sent_le hfits (Nat.le_of_eq hcursor.symm), fun k hk => hattends.pending_eq hk,
    fun later a hlater => ?_⟩
  · rw [poll_of_sent_le hfits (Nat.le_of_eq hcursor.symm), drain_isOpen, hattends.isOpen]
  · obtain ⟨hlookup, hsent⟩ := lookup_after hfits hserves' hlater
    refine poll_announce (fits_after hfits later) ?_ ?_ a
    · unfold Serves
      rw [hlookup]
      exact hserves'
    · rw [cursor, hlookup, hsent]
      exact hcursor

end Channel

/-- Whatever has been done to a channel and its receivers, draining one of them ends, takes all that was to
come to it and leaves everybody else alone, and tells whether the channel was closed. -/
theorem draining_empties_one {α : Type} {capacity : Nat} {c : Channel α}
    (hc : Channel.new? capacity = some c) (ops : List (Channel.Operation α)) {r : Nat}
    (hr : (c.after ops).Serves r) :
    Channel.Empties r (c.after ops) ((c.after ops).drain r).1 ((c.after ops).drain r).2 ∧
      (((c.after ops).drain r).1 = true ↔ Channel.Operation.close ∉ ops) := by
  obtain ⟨-, hnew⟩ := Option.ite_none_right_eq_some.mp hc
  obtain rfl := Option.some.inj hnew
  have hfits := Channel.fits_new (α := α) capacity
  have hsound := Channel.sound_new (α := α) capacity
  refine ⟨Channel.drain_empties (Channel.fits_after hfits ops)
    (Channel.sound_after hfits hsound ops) hr, ?_⟩
  rw [Channel.drain_isOpen, Channel.isOpen_after hfits]
  exact and_iff_right rfl

/-- One of two receivers missed three of five values, and the channel was closed with the others still to
be got. -/
def laggingHistory : List (Channel.Operation Nat) :=
  [.subscribe, .announce 1, .subscribe, .resubscribe 1, .poll 0, .announce 2, .announce 3, .announce 4,
    .announce 5, .unsubscribe 2, .poll 1, .close]

/-- There the first receiver, which lags behind, is emptied, and the second one keeps what it has to
come. -/
theorem draining_empties_one_lagging : ∃ c : Channel Nat, Channel.new? 2 = some c ∧
    (c.after laggingHistory).Serves 0 ∧
    (c.after laggingHistory).pending 0 = [.lagged 2, .value 4, .value 5] ∧
    (((c.after laggingHistory).drain 0).2.pending 1 = [.value 4, .value 5] ∧
      ((c.after laggingHistory).drain 0).1 = false) ∧
    Channel.Empties 0 (c.after laggingHistory) ((c.after laggingHistory).drain 0).1
      ((c.after laggingHistory).drain 0).2 := by
  have hserves : ((Channel.new 2).after laggingHistory).Serves 0 := by unfold Channel.Serves; decide +kernel
  have hpending : ((Channel.new 2).after laggingHistory).pending 0 =
      [.lagged 2, .value 4, .value 5] := by decide +kernel
  have hother : ((Channel.new 2).after laggingHistory).pending 1 = [.value 4, .value 5] := by decide +kernel
  have hnew : Channel.new? 2 = some (Channel.new (α := Nat) 2) := rfl
  obtain ⟨hempties, hopen⟩ := draining_empties_one hnew laggingHistory hserves
  refine ⟨Channel.new 2, hnew, hserves, hpending, ⟨?_, ?_⟩, hempties⟩
  · rw [hempties.others 1 (by decide)]
    exact hother
  · exact Bool.eq_false_iff.mpr fun h => absurd (hopen.mp h) (by decide)

end CoreBroker
