import CoreBroker.Proofs.Provider.Permits
import CoreBroker.Scene.Calls
set_option autoImplicit false

/-!
# Slots are conserved

A provider of slots hands out a core for each free slot and has the slot back when the core is disposed of or
let go.  Calls may wait, be cancelled or be dropped at any moment, even when they were already granted a slot,
and the provider may be closed in the middle of all this; no slot is lost on the way and none is made.
-/

namespace CoreBroker

/-- A provider of slots with those who deal with it: the calls under way, the cores it handed out, newest
first, and those of them that were neither disposed of nor let go. -/
structure Tenancy where
  scene : Scene
  provider : Nat
  calls : List Call := []
  issued : List Core := []
  live : List Core := []

/-- What can happen to a provider of slots. -/
inductive SlotMove where
  /-- A core is asked for. -/
  | call (token : Token)
  /-- A call under way is looked at. -/
  | poll (call : Call)
  /-- A call under way is dropped. -/
  | drop (call : Call)
  /-- A token is fired, which cancels the calls with that token. -/
  | fire (token : Token)
  | dispose (core : Core)
  /-- A core is let go of without being disposed of. -/
  | letGo (core : Core)
  | close
  /-- Anything else that may go on, which leaves the provider as it is. -/
  | meanwhile (scene : Scene)

namespace Tenancy

/-- A new provider with `total` slots. -/
def new (s : Scene) (handle id : String) (total : Nat) : Tenancy where
  scene := { s with providers := s.providers ++ [.withSlots ⟨s.providers.length, id⟩ handle total] }
  provider := s.providers.length

/-- The provider as it is now. -/
def host (t : Tenancy) : Provider := (t.scene.providers[t.provider]?).getD default

/-- A call under way is looked at, and goes on or comes to an end. -/
def poll (t : Tenancy) (call : Call) : Tenancy :=
  match t.scene.lookAtCall call with
  | .blocked => t
  | .moved next scene => { t with scene, calls := t.calls.erase call ++ [next] }
  | .ended (.core core) scene =>
    { t with scene, calls := t.calls.erase call, issued := core :: t.issued, live := core :: t.live }
  | .ended _ scene => { t with scene, calls := t.calls.erase call }

/-- What comes of a move; one that cannot be made changes nothing. -/
def perform (t : Tenancy) : SlotMove → Tenancy
  | .call token =>
    let (call, scene) := t.scene.newCall t.provider token
    { t with scene, calls := t.calls ++ [call] }
  | .poll call => if call ∈ t.calls then t.poll call else t
  | .drop call =>
    if call ∈ t.calls then { t with scene := t.scene.dropCall call, calls := t.calls.erase call } else t
  | .fire token => { t with scene := t.scene.fire token }
  | .dispose core =>
    if core ∈ t.live then { t with scene := t.scene.disposeCore core, live := t.live.erase core } else t
  | .letGo core =>
    if core ∈ t.live then { t with scene := t.scene.giveBackSlot core, live := t.live.erase core } else t
  | .close => { t with scene := t.scene.modifyProvider t.provider (·.close) }
  | .meanwhile scene =>
    if scene.providers[t.provider]? = t.scene.providers[t.provider]? ∧
        t.scene.nextSerial ≤ scene.nextSerial then { t with scene } else t

/-- What comes of moves, one after the other. -/
def run (t : Tenancy) (moves : List SlotMove) : Tenancy := moves.foldl perform t

/-- Nothing goes on by itself: all calls wait. -/
def IsSettled (t : Tenancy) : Prop := ∀ call ∈ t.calls, t.scene.lookAtCall call = .blocked

/-! ## The calls under way -/

/-- The calls to the provider `p` that are under way, with tickets below `bound`.  Whoever has one of the
tickets `tickets` is among those of them that have joined the queue. -/
structure Attends (p bound : Nat) (calls : List Call) (tickets : List Nat) : Prop where
  belong : ∀ call ∈ calls, call.provider = p ∧ call.ticket < bound
  distinct : (calls.map (·.ticket)).Nodup
  known : ∀ ticket ∈ tickets, ∃ call ∈ calls, call.ticket = ticket ∧ call.point = .queueing

namespace Attends

variable {p bound : Nat} {calls : List Call} {tickets : List Nat} {call : Call}

theorem mono (h : Attends p bound calls tickets) {bound' : Nat} (hbound : bound ≤ bound')
    {tickets' : List Nat} (htickets : tickets' ⊆ tickets) : Attends p bound' calls tickets' where
  belong call hcall := ⟨(h.belong call hcall).1, Nat.lt_of_lt_of_le (h.belong call hcall).2 hbound⟩
  distinct := h.distinct
  known ticket hticket := h.known ticket (htickets hticket)

theorem made (h : Attends p bound calls tickets) (token : Token) :
    Attends p (bound + 1) (calls ++ [⟨bound, p, token, .fresh⟩]) tickets where
  belong call hcall := by
    rcases List.mem_append.mp hcall with hbefore | hnew
    · exact ⟨(h.belong call hbefore).1, Nat.lt_succ_of_lt (h.belong call hbefore).2⟩
    · rw [List.mem_singleton.mp hnew]
      exact ⟨rfl, Nat.lt_succ_self bound⟩
  distinct := by
    rw [List.map_append, List.map_singleton]
    refine List.nodup_append.mpr ⟨h.distinct, List.nodup_singleton _, ?_⟩
    rintro _ hmem _ hnew rfl
    obtain ⟨call, hcall, hticket⟩ := List.mem_map.mp hmem
    have hbelow := (h.belong call hcall).2
    rw [hticket, List.mem_singleton.mp hnew] at hbelow
    exact absurd hbelow (Nat.lt_irrefl bound)
  known ticket hticket := by
    obtain ⟨call, hcall, hthis⟩ := h.known ticket hticket
    exact ⟨call, List.mem_append_left _ hcall, hthis⟩

theorem erase (h : Attends p bound calls tickets) (htickets : tickets.Nodup) (call : Call) :
    Attends p bound (calls.erase call) (tickets.erase call.ticket) where
  belong other hother := h.belong other (List.mem_of_mem_erase hother)
  distinct := h.distinct.sublist (List.erase_sublist.map _)
  known ticket hticket := by
    obtain ⟨hne, hmem⟩ := htickets.mem_erase_iff.mp hticket
    obtain ⟨other, hother, rfl, hpoint⟩ := h.known ticket hmem
    have hother' : other ≠ call := fun heq => hne (heq ▸ rfl)
    exact ⟨other, (List.mem_erase_of_ne hother').mpr hother, rfl, hpoint⟩

theorem join (h : Attends p bound calls tickets) (hcall : call ∈ calls) :
    Attends p bound (calls.erase call ++ [{ call with point := .queueing }])
      (tickets ++ [call.ticket]) where
  belong other hother := by
    rcases List.mem_append.mp hother with hbefore | hnew
    · exact h.belong other (List.mem_of_mem_erase hbefore)
    · rw [List.mem_singleton.mp hnew]
      exact h.belong call hcall
  distinct := by
    have hperm : ((calls.erase call ++ [{ call with point := .queueing }]).map Call.ticket).Perm
        (calls.map Call.ticket) := by
      rw [List.map_append]
      exact List.perm_append_comm.trans ((List.perm_cons_erase hcall).map Call.ticket).symm
    exact hperm.nodup_iff.mpr h.distinct
  known ticket hticket := by
    rcases List.mem_append.mp hticket with hbefore | hnew
    · obtain ⟨other, hother, rfl, hpoint⟩ := h.known ticket hbefore
      by_cases hsame : other = call
      · exact ⟨{ call with point := .queueing }, by simp, by rw [hsame], rfl⟩
      · exact ⟨other, List.mem_append_left _ ((List.mem_erase_of_ne hsame).mpr hother), rfl, hpoint⟩
    · rw [List.mem_singleton.mp hnew]
      exact ⟨{ call with point := .queueing }, by simp, rfl, rfl⟩

/-- A call that has not joined the queue has no ticket there. -/
theorem not_mem_tickets (h : Attends p bound calls tickets) (hcall : call ∈ calls)
    (hpoint : call.point ≠ .queueing) : call.ticket ∉ tickets := by
  intro hmem
  obtain ⟨other, hother, hticket, hqueueing⟩ := h.known _ hmem
  obtain rfl := List.inj_on_of_nodup_map h.distinct hother hcall hticket
  exact hpoint hqueueing

end Attends

/-! ## What can happen to the provider -/

/-- What holds at every moment: `provider` has `total` slots and hands out `permits`. -/
structure Holds (t : Tenancy) (total : Nat) (provider : Provider) (permits : Permits) : Prop where
  found : t.scene.providers[t.provider]? = some provider
  stock : provider.stock = .slots total permits
  sound : permits.IsSound
  sum : permits.inStock + t.live.length = total
  numbers : t.issued.reverse.map (·.number) = List.range' 1 provider.issued
  slots : ∀ core ∈ t.issued, core.liveness = .slot t.provider
  live : t.live.Sublist t.issued
  attends : Attends t.provider t.scene.nextSerial t.calls permits.tickets

section Holds

variable {t : Tenancy} {total : Nat} {provider : Provider} {permits permits' : Permits} {s : Scene}
  {call : Call}

theorem Holds.aside (h : t.Holds total provider permits)
    (hfound : s.providers[t.provider]? = t.scene.providers[t.provider]?)
    (hserial : t.scene.nextSerial ≤ s.nextSerial) :
    ({ t with scene := s } : Tenancy).Holds total provider permits where
  found := hfound.trans h.found
  stock := h.stock
  sound := h.sound
  sum := h.sum
  numbers := h.numbers
  slots := h.slots
  live := h.live
  attends := h.attends.mono hserial (List.Subset.refl _)

theorem Holds.withdrawn (h : t.Holds total provider permits)
    (hfound : s.providers[t.provider]? =
      some { provider with stock := .slots total (permits.withdraw call.ticket) })
    (hserial : t.scene.nextSerial ≤ s.nextSerial) :
    ({ t with scene := s, calls := t.calls.erase call } : Tenancy).Holds total
      { provider with stock := .slots total (permits.withdraw call.ticket) }
      (permits.withdraw call.ticket) where
  found := hfound
  stock := rfl
  sound := h.sound.withdraw _
  sum := by
    rw [Permits.inStock_withdraw]
    exact h.sum
  numbers := h.numbers
  slots := h.slots
  live := h.live
  attends := by
    rw [Permits.tickets_withdraw h.sound]
    exact (h.attends.erase h.sound.tickets call).mono hserial (List.Subset.refl _)

theorem Holds.dropped (h : t.Holds total provider permits) (hcall : call ∈ t.calls)
    (hpoint : call.point ≠ .queueing)
    (hfound : s.providers[t.provider]? = t.scene.providers[t.provider]?)
    (hserial : t.scene.nextSerial ≤ s.nextSerial) :
    ({ t with scene := s, calls := t.calls.erase call } : Tenancy).Holds total provider permits where
  found := hfound.trans h.found
  stock := h.stock
  sound := h.sound
  sum := h.sum
  numbers := h.numbers
  slots := h.slots
  live := h.live
  attends := by
    have herased := (h.attends.erase h.sound.tickets call).mono hserial (List.Subset.refl _)
    rwa [List.erase_of_not_mem (h.attends.not_mem_tickets hcall hpoint)] at herased

theorem Holds.joined (h : t.Holds total provider permits) (hcall : call ∈ t.calls)
    (hlook : permits.look call.ticket = .joined permits')
    (hfound : s.providers[t.provider]? = some { provider with stock := .slots total permits' })
    (hserial : t.scene.nextSerial ≤ s.nextSerial) :
    ({ t with scene := s, calls := t.calls.erase call ++ [{ call with point := .queueing }] } :
      Tenancy).Holds total { provider with stock := .slots total permits' } permits' := by
  obtain ⟨-, -, hstock, htickets, hsound⟩ := Permits.of_look_joined h.sound hlook
  refine ⟨hfound, rfl, hsound, ?_, h.numbers, h.slots, h.live, ?_⟩
  · rw [hstock]
    exact h.sum
  · rw [htickets]
    exact (h.attends.join hcall).mono hserial (List.Subset.refl _)

/-- A call gets a slot, and the provider hands out its next core. -/
theorem Holds.handedOut (h : t.Holds total provider permits)
    (hlook : permits.look call.ticket = .got permits') {core : Core}
    (hfound : s.providers[t.provider]? =
      some { provider with stock := .slots total permits', issued := provider.issued + 1 })
    (hserial : t.scene.nextSerial ≤ s.nextSerial) (hnumber : core.number = provider.issued + 1)
    (hslot : core.liveness = .slot t.provider) :
    ({ t with scene := s, calls := t.calls.erase call, issued := core :: t.issued,
              live := core :: t.live } : Tenancy).Holds total
      { provider with stock := .slots total permits', issued := provider.issued + 1 } permits' := by
  obtain ⟨-, -, hstock, htickets, hsound⟩ := Permits.of_look_got h.sound hlook
  refine ⟨hfound, rfl, hsound, ?_, ?_, ?_, h.live.cons_cons _, ?_⟩
  · have hsum := h.sum
    simp only [List.length_cons]
    omega
  · show (core :: t.issued).reverse.map (·.number) = List.range' 1 (provider.issued + 1)
    rw [List.reverse_cons, List.map_append, h.numbers, List.map_singleton, hnumber,
      List.range'_concat, Nat.one_mul, Nat.add_comm provider.issued 1]
  · intro other hother
    rcases List.mem_cons.mp hother with rfl | hbefore
    · exact hslot
    · exact h.slots other hbefore
  · rw [htickets]
    exact (h.attends.erase h.sound.tickets call).mono hserial (List.Subset.refl _)

theorem Holds.gaveBack (h : t.Holds total provider permits) {core : Core} (hcore : core ∈ t.live)
    (hfound : s.providers[t.provider]? =
      some { provider with stock := .slots total permits.giveBack })
    (hserial : t.scene.nextSerial ≤ s.nextSerial) :
    ({ t with scene := s, live := t.live.erase core } : Tenancy).Holds total
      { provider with stock := .slots total permits.giveBack } permits.giveBack where
  found := hfound
  stock := rfl
  sound := h.sound.giveBack
  sum := by
    have hsum := h.sum
    have hpos := List.length_pos_of_mem hcore
    simp only [Permits.inStock_giveBack, List.length_erase_of_mem hcore]
    omega
  numbers := h.numbers
  slots := h.slots
  live := List.erase_sublist.trans h.live
  attends := by
    rw [Permits.tickets_giveBack]
    exact h.attends.mono hserial (List.Subset.refl _)

/-! ## The moves -/

theorem Holds.permits_eq (h : t.Holds total provider permits) : provider.permits = permits := by
  rw [Provider.permits, h.stock]

theorem Holds.setPermits_eq (h : t.Holds total provider permits) (permits' : Permits) :
    provider.setPermits permits' = { provider with stock := .slots total permits' } := by
  rw [Provider.setPermits, h.stock]

theorem Holds.isClosed_eq (h : t.Holds total provider permits) :
    provider.isClosed = permits.isClosed := by
  rw [Provider.isClosed, h.stock]

theorem found_modifyProvider {p : Nat} (hfound : s.providers[p]? = some provider)
    (f : Provider → Provider) : (s.modifyProvider p f).providers[p]? = some (f provider) := by
  simp [Scene.modifyProvider, hfound]

theorem Holds.withdrawTicket (h : t.Holds total provider permits) (hcall : call.provider = t.provider) :
    (t.scene.withdrawTicket call).providers[t.provider]? =
      some { provider with stock := .slots total (permits.withdraw call.ticket) } := by
  rw [Scene.withdrawTicket, hcall, found_modifyProvider h.found, h.permits_eq, h.setPermits_eq]

theorem Holds.giveBackSlot (h : t.Holds total provider permits) {core : Core}
    (hslot : core.liveness = .slot t.provider) :
    (t.scene.giveBackSlot core).providers[t.provider]? =
      some { provider with stock := .slots total permits.giveBack } := by
  simp only [Scene.giveBackSlot, hslot]
  rw [found_modifyProvider h.found, h.permits_eq, h.setPermits_eq]

theorem providers_report (s : Scene) (level : Log.Level) (message : Phrase Nat)
    (fields : List (String × Phrase Nat)) :
    (s.report level message fields).providers = s.providers ∧
      (s.report level message fields).nextSerial = s.nextSerial := by
  unfold Scene.report
  split <;> exact ⟨rfl, rfl⟩

theorem nextSerial_giveBackSlot (s : Scene) (core : Core) :
    (s.giveBackSlot core).nextSerial = s.nextSerial := by
  unfold Scene.giveBackSlot
  split <;> rfl

theorem providers_disposeCore {core : Core} {p : Nat} (hslot : core.liveness = .slot p) (s : Scene) :
    (s.disposeCore core).providers = (s.giveBackSlot core).providers ∧
      (s.disposeCore core).nextSerial = s.nextSerial := by
  obtain ⟨hproviders, hserial⟩ := providers_report (s.note (.disposed core)) .trace "slot released"
    [("provider_id", .ofText core.providerId), ("core", .ofText (toString core.number))]
  simp only [Scene.disposeCore, hslot, Scene.giveBackSlot, Scene.modifyProvider, hproviders, hserial]
  exact ⟨rfl, rfl⟩

/-- What a look at a call to the provider finds. -/
inductive CallFinding (t : Tenancy) (total : Nat) (provider : Provider) (permits : Permits) (call : Call) :
    CallLook → Prop
  /-- It is in the queue. -/
  | waits (hlook : permits.look call.ticket = .waiting) : CallFinding t total provider permits call .blocked
  | joins {permits' : Permits} {s : Scene} (hlook : permits.look call.ticket = .joined permits')
      (hfound : s.providers[t.provider]? = some { provider with stock := .slots total permits' })
      (hserial : t.scene.nextSerial ≤ s.nextSerial) :
      CallFinding t total provider permits call (.moved { call with point := .queueing } s)
  /-- It was cancelled, or the provider is closed. -/
  | fails {chain : List String} {s : Scene}
      (hfound : s.providers[t.provider]? =
        some { provider with stock := .slots total (permits.withdraw call.ticket) })
      (hserial : t.scene.nextSerial ≤ s.nextSerial) :
      CallFinding t total provider permits call (.ended (.failed chain) s)
  | gets {permits' : Permits} {core : Core} {s : Scene}
      (hlook : permits.look call.ticket = .got permits')
      (hfound : s.providers[t.provider]? =
        some { provider with stock := .slots total permits', issued := provider.issued + 1 })
      (hserial : t.scene.nextSerial ≤ s.nextSerial) (hnumber : core.number = provider.issued + 1)
      (hslot : core.liveness = .slot t.provider) :
      CallFinding t total provider permits call (.ended (.core core) s)

theorem Holds.callFinding (h : t.Holds total provider permits) (hcall : call.provider = t.provider) :
    CallFinding t total provider permits call (t.scene.lookAtCall call) := by
  have hset : ∀ permits', (t.scene.setPermits call.provider permits').providers[t.provider]? =
      some { provider with stock := .slots total permits' } := fun permits' => by
    rw [Scene.setPermits, hcall, found_modifyProvider h.found, h.setPermits_eq]
  simp only [Scene.lookAtCall, hcall, h.found, h.stock, Scene.lookAtSlot, h.permits_eq]
  rw [← hcall]
  split
  · exact .fails (h.withdrawTicket hcall) (Nat.le_refl _)
  · split
    · rename_i hlook
      exact .waits hlook
    · rename_i permits' hlook
      exact .joins hlook (hset permits') (Nat.le_refl _)
    · rename_i permits' hlook
      obtain ⟨-, rfl⟩ := Permits.of_look_refused hlook
      exact .fails (hset _) (Nat.le_refl _)
    · rename_i permits' hlook
      refine .gets hlook ?_ ?_ rfl (congrArg Liveness.slot hcall)
      · rw [(providers_report _ _ _ _).1]
        have hpaid := hset permits'
        rw [hcall] at hpaid ⊢
        exact found_modifyProvider hpaid fun paid => { paid with issued := provider.issued + 1 }
      · rw [(providers_report _ _ _ _).2]
        exact Nat.le_succ _

/-- What a move leads to: the invariant holds again, and a closed provider stays closed and hands out no
more cores. -/
def KeepsSlots (t : Tenancy) (total : Nat) (permits : Permits) (t' : Tenancy) : Prop :=
  ∃ provider' permits', t'.Holds total provider' permits' ∧
    (permits.isClosed = true → permits'.isClosed = true ∧ t'.issued = t.issued)

theorem Holds.keepsSlots (h : t.Holds total provider permits) : t.KeepsSlots total permits t :=
  ⟨provider, permits, h, fun hclosed => ⟨hclosed, rfl⟩⟩

theorem Holds.keepsSlots_poll (h : t.Holds total provider permits) (hcall : call ∈ t.calls) :
    t.KeepsSlots total permits (t.poll call) := by
  have hfinding := h.callFinding (h.attends.belong call hcall).1
  unfold Tenancy.poll
  generalize t.scene.lookAtCall call = look at hfinding
  cases hfinding with
  | waits _ => exact h.keepsSlots
  | joins hlook hfound hserial =>
    refine ⟨_, _, h.joined hcall hlook hfound hserial, fun hclosed => ?_⟩
    exact absurd (hclosed.symm.trans (Permits.of_look_joined h.sound hlook).1) (by simp)
  | fails hfound hserial =>
    exact ⟨_, _, h.withdrawn hfound hserial, fun hclosed => ⟨by simpa using hclosed, rfl⟩⟩
  | gets hlook hfound hserial hnumber hslot =>
    refine ⟨_, _, h.handedOut hlook hfound hserial hnumber hslot, fun hclosed => ?_⟩
    exact absurd (hclosed.symm.trans (Permits.of_look_got h.sound hlook).1) (by simp)

theorem Holds.keepsSlots_drop (h : t.Holds total provider permits) (hcall : call ∈ t.calls) :
    t.KeepsSlots total permits
      { t with scene := t.scene.dropCall call, calls := t.calls.erase call } := by
  have hprovider := (h.attends.belong call hcall).1
  have hwithdrawn : ∀ {s : Scene}, s.providers = (t.scene.withdrawTicket call).providers →
      s.nextSerial = t.scene.nextSerial →
      t.KeepsSlots total permits { t with scene := s, calls := t.calls.erase call } := by
    intro s hproviders hserial
    refine ⟨_, _, h.withdrawn ?_ (Nat.le_of_eq hserial.symm), fun hclosed =>
      ⟨by simpa using hclosed, rfl⟩⟩
    rw [hproviders, h.withdrawTicket hprovider]
  have hdropped : ∀ {s : Scene}, call.point ≠ .queueing → s.providers = t.scene.providers →
      s.nextSerial = t.scene.nextSerial →
      t.KeepsSlots total permits { t with scene := s, calls := t.calls.erase call } := by
    intro s hpoint hproviders hserial
    exact ⟨_, _, h.dropped hcall hpoint (by rw [hproviders]) (Nat.le_of_eq hserial.symm),
      fun hclosed => ⟨hclosed, rfl⟩⟩
  have hfound : t.scene.providers[call.provider]? = some provider := by
    rw [hprovider, h.found]
  unfold Scene.dropCall
  rw [hfound]
  cases hpoint : call.point with
  | fresh => exact hdropped (by simp [hpoint]) rfl rfl
  | resting plan wakeAt => exact hdropped (by simp [hpoint]) rfl rfl
  | awaiting plan => exact hwithdrawn rfl rfl
  | queueing => exact hwithdrawn rfl rfl

theorem Holds.keepsSlots_giveBack (h : t.Holds total provider permits) {core : Core} (hcore : core ∈ t.live)
    (hproviders : s.providers = (t.scene.giveBackSlot core).providers)
    (hserial : t.scene.nextSerial ≤ s.nextSerial) :
    t.KeepsSlots total permits { t with scene := s, live := t.live.erase core } := by
  refine ⟨_, _, h.gaveBack hcore ?_ hserial, fun hclosed => ⟨by simpa using hclosed, rfl⟩⟩
  rw [hproviders, h.giveBackSlot (h.slots core (h.live.subset hcore))]

/-- The provider is closed. -/
theorem Holds.closed (h : t.Holds total provider permits) :
    (t.perform .close).Holds total { provider with stock := .slots total permits.close }
      permits.close where
  found := by
    show (t.scene.modifyProvider t.provider (·.close)).providers[t.provider]? = _
    rw [found_modifyProvider h.found, Provider.close, h.stock]
  stock := rfl
  sound := h.sound.close
  sum := h.sum
  numbers := h.numbers
  slots := h.slots
  live := h.live
  attends := h.attends.mono (Nat.le_refl _) permits.tickets_close

theorem Holds.keepsSlots_perform (h : t.Holds total provider permits) (m : SlotMove) :
    t.KeepsSlots total permits (t.perform m) := by
  cases m with
  | call token =>
    refine ⟨provider, permits, ⟨h.found, h.stock, h.sound, h.sum, h.numbers, h.slots, h.live, ?_⟩,
      fun hclosed => ⟨hclosed, rfl⟩⟩
    exact h.attends.made token
  | poll call =>
    simp only [Tenancy.perform]
    split
    · exact h.keepsSlots_poll ‹_›
    · exact h.keepsSlots
  | drop call =>
    simp only [Tenancy.perform]
    split
    · exact h.keepsSlots_drop ‹_›
    · exact h.keepsSlots
  | fire token => exact ⟨provider, permits, h.aside rfl (Nat.le_refl _), fun hclosed => ⟨hclosed, rfl⟩⟩
  | dispose core =>
    simp only [Tenancy.perform]
    split
    · rename_i hcore
      obtain ⟨hproviders, hserial⟩ :=
        providers_disposeCore (h.slots core (h.live.subset hcore)) t.scene
      exact h.keepsSlots_giveBack hcore hproviders (Nat.le_of_eq hserial.symm)
    · exact h.keepsSlots
  | letGo core =>
    simp only [Tenancy.perform]
    split
    · rename_i hcore
      exact h.keepsSlots_giveBack hcore rfl (Nat.le_of_eq (nextSerial_giveBackSlot t.scene core).symm)
    · exact h.keepsSlots
  | close => exact ⟨_, _, h.closed, fun _ => ⟨rfl, rfl⟩⟩
  | meanwhile scene =>
    simp only [Tenancy.perform]
    split
    · rename_i haside
      exact ⟨provider, permits, h.aside haside.1 haside.2, fun hclosed => ⟨hclosed, rfl⟩⟩
    · exact h.keepsSlots

end Holds

/-! ## Every run -/

/-- What is true of a provider with `total` slots, however those who deal with it behave. -/
structure Conserves (t : Tenancy) (total : Nat) : Prop where
  found : t.scene.providers[t.provider]? = some t.host
  size : t.host.totalSlots = total
  /-- A slot is free, was granted to a call that has not gone on yet, or belongs to a live core. -/
  sum : t.host.freeSlots + t.host.permits.granted.length + t.live.length = total
  settled : t.IsSettled → t.host.freeSlots + t.live.length = total
  bounded : t.live.length ≤ total
  live : t.live.Sublist t.issued
  /-- The cores are numbered in the order in which they were handed out. -/
  numbers : t.issued.reverse.map (·.number) = List.range' 1 t.host.issued
  /-- While the provider is open no call waits for a slot that is free. -/
  waits : t.host.isClosed = false → ∀ call ∈ t.calls, t.scene.lookAtCall call = .blocked →
    t.host.freeSlots = 0
  /-- Once it is closed no call comes to a core. -/
  refuses : t.host.isClosed = true → ∀ call core scene, call.provider = t.provider →
    t.scene.lookAtCall call ≠ .ended (.core core) scene
  /-- A core works as long as the provider is open. -/
  answers : ∀ core ∈ t.live, ∀ ticket token,
    t.scene.lookAtProbe core ticket token = .answered (!t.host.isClosed) t.scene

section Run

variable {t : Tenancy} {total : Nat} {provider : Provider} {permits : Permits}

theorem Holds.host_eq (h : t.Holds total provider permits) : t.host = provider := by
  rw [host, h.found, Option.getD_some]

/-- In a settled state no slot is granted to a call that has not gone on. -/
theorem Holds.granted_of_isSettled (h : t.Holds total provider permits) (hsettled : t.IsSettled) :
    permits.granted = [] := by
  refine List.eq_nil_iff_forall_not_mem.mpr fun ticket hticket => ?_
  obtain ⟨call, hcall, rfl, -⟩ := h.attends.known ticket (List.mem_append_left _ hticket)
  have hfinding := h.callFinding (h.attends.belong call hcall).1
  rw [hsettled call hcall] at hfinding
  cases hfinding with
  | waits hlook =>
    have hqueue := (Permits.of_look_waiting hlook).2
    exact (List.nodup_append.mp h.sound.tickets).2.2 _ hticket _ hqueue rfl

theorem Holds.conserves (h : t.Holds total provider permits) : t.Conserves total := by
  have hhost := h.host_eq
  have hfree : provider.freeSlots = permits.free := by
    rw [Provider.freeSlots, h.stock]
  have hsum : permits.free + permits.granted.length + t.live.length = total := h.sum
  constructor
  case found => rw [hhost, h.found]
  case size => rw [hhost, Provider.totalSlots, h.stock]
  case sum => rw [hhost, hfree, h.permits_eq, hsum]
  case settled =>
    intro hsettled
    rw [h.granted_of_isSettled hsettled, List.length_nil] at hsum
    rw [hhost, hfree]
    omega
  case bounded => omega
  case live => exact h.live
  case numbers => rw [hhost, h.numbers]
  case waits =>
    intro _ call hcall hblocked
    have hfinding := h.callFinding (h.attends.belong call hcall).1
    rw [hblocked] at hfinding
    cases hfinding with
    | waits hlook =>
      rw [hhost, hfree]
      exact h.sound.waits (List.ne_nil_of_mem (Permits.of_look_waiting hlook).2)
  case refuses =>
    intro hclosed call core scene hcall hcore
    have hfinding := h.callFinding hcall
    rw [hcore] at hfinding
    cases hfinding with
    | gets hlook _ _ _ _ =>
      rw [hhost, h.isClosed_eq, (Permits.of_look_got h.sound hlook).1] at hclosed
      exact absurd hclosed (by simp)
  case answers =>
    intro core hcore ticket token
    have hslot := h.slots core (h.live.subset hcore)
    simp [Scene.lookAtProbe, Scene.isAlive, hslot, h.found, hhost]

theorem new_holds (s : Scene) (handle id : String) (total : Nat) :
    (new s handle id total).Holds total (.withSlots ⟨s.providers.length, id⟩ handle total)
      { free := total } where
  found := by simp [new]
  stock := rfl
  sound := ⟨List.nodup_nil, fun h => absurd rfl h, fun _ => rfl⟩
  sum := rfl
  numbers := rfl
  slots core hcore := absurd hcore List.not_mem_nil
  live := List.Sublist.refl _
  attends := ⟨fun call hcall => absurd hcall List.not_mem_nil, List.nodup_nil,
    fun ticket hticket => absurd hticket List.not_mem_nil⟩

theorem Holds.keepsSlots_run (h : t.Holds total provider permits) (moves : List SlotMove) :
    t.KeepsSlots total permits (t.run moves) := by
  induction moves generalizing t provider permits with
  | nil => exact h.keepsSlots
  | cons m rest ih =>
    obtain ⟨provider₁, permits₁, h₁, hfirst⟩ := h.keepsSlots_perform m
    obtain ⟨provider₂, permits₂, h₂, hrest⟩ := ih h₁
    refine ⟨provider₂, permits₂, h₂, fun hclosed => ?_⟩
    obtain ⟨hclosed₁, hissued₁⟩ := hfirst hclosed
    obtain ⟨hclosed₂, hissued₂⟩ := hrest hclosed₁
    exact ⟨hclosed₂, hissued₂.trans hissued₁⟩

end Run

end Tenancy

/-- Slots are conserved.  Whatever those who deal with a provider do, in every settled state each slot is
free or belongs to a live core, and there are never more live cores than slots; the cores handed out are
numbered without gaps; nobody waits for a slot that is free; and once the provider was closed it hands out
nothing and no core of it works. -/
theorem slots_conserved (s : Scene) (handle id : String) (total : Nat) (moves : List SlotMove) :
    ((Tenancy.new s handle id total).run moves).Conserves total ∧
      ∀ earlier later, moves = earlier ++ .close :: later →
        ((Tenancy.new s handle id total).run moves).host.isClosed = true ∧
          ((Tenancy.new s handle id total).run moves).issued =
            ((Tenancy.new s handle id total).run earlier).issued := by
  have hnew := Tenancy.new_holds s handle id total
  refine ⟨?_, fun earlier later hmoves => ?_⟩
  · obtain ⟨provider, permits, h, -⟩ := hnew.keepsSlots_run moves
    exact h.conserves
  · obtain ⟨provider, permits, hbefore, -⟩ := hnew.keepsSlots_run earlier
    obtain ⟨provider', permits', hafter, hlasts⟩ := hbefore.closed.keepsSlots_run later
    obtain ⟨hclosed, hissued⟩ := hlasts rfl
    have hrun : (Tenancy.new s handle id total).run moves =
        (((Tenancy.new s handle id total).run earlier).perform .close).run later := by
      rw [hmoves, Tenancy.run, List.foldl_append]
      rfl
    rw [hrun]
    exact ⟨by rw [hafter.host_eq, hafter.isClosed_eq, hclosed], hissued⟩

/-- The only slot goes to a first call and, once its core is disposed of, to a second one, which is cancelled
before it goes on.  So a third call gets the slot. -/
def passedOnMoves : List SlotMove :=
  [.call ⟨1, []⟩, .poll ⟨0, 0, ⟨1, []⟩, .fresh⟩, .call ⟨2, []⟩, .poll ⟨2, 0, ⟨2, []⟩, .fresh⟩,
    .dispose ⟨1, "L", 1, "local", .slot 0⟩, .fire ⟨2, []⟩, .poll ⟨2, 0, ⟨2, []⟩, .queueing⟩,
    .call ⟨3, []⟩, .poll ⟨3, 0, ⟨3, []⟩, .fresh⟩]

theorem slots_conserved_passedOn :
    ((Tenancy.new default "L" "local" 1).run (passedOnMoves ++ [.close])).Conserves 1 ∧
      ((Tenancy.new default "L" "local" 1).run (passedOnMoves ++ [.close])).host.isClosed = true ∧
      ((Tenancy.new default "L" "local" 1).run (passedOnMoves ++ [.close])).live =
        [⟨4, "L", 2, "local", .slot 0⟩] := by
  obtain ⟨hconserves, hcloses⟩ := slots_conserved default "L" "local" 1 (passedOnMoves ++ [.close])
  obtain ⟨hclosed, -⟩ := hcloses passedOnMoves [] rfl
  exact ⟨hconserves, hclosed, by decide +kernel⟩

end CoreBroker
