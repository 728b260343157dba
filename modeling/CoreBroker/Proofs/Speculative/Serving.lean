import CoreBroker.Proofs.Registry.Serving
import CoreBroker.Proofs.Runs.Announcements
import CoreBroker.Proofs.Speculative.PassSteps
set_option autoImplicit false

/-!
# Matching in the order of creation

While a fulfiller has the guard of the registry, every request that it finds takes the core it is given.
So the cores go to the requests in order, one to each, as long as there are both: no core is refused, and
what is left over are the cores beyond the last request, in their order.
-/

namespace CoreBroker

/-- What the second list is too short for is not there. -/
theorem map_fst_zip_eq_take {α β : Type} (xs : List α) (ys : List β) :
    (xs.zip ys).map (·.1) = xs.take ys.length := by
  induction xs generalizing ys with
  | nil => simp
  | cons x xs ih =>
    cases ys with
    | nil => rfl
    | cons y ys => exact congrArg (x :: ·) (ih ys)

/-- Announces values one after the other. -/
def Channel.announceAll {α : Type} (c : Channel α) (values : List α) : Channel α :=
  values.foldl (fun c value => (c.announce value).2) c

/-- What is told, newest first, when cores are passed to requests of the registry `b` and all are taken. -/
def handings (b : Nat) (entries : List (Nat × Core)) : List Event :=
  (entries.flatMap fun entry =>
    [.offered b entry.1 entry.2, .changed b (.assigned entry.1 entry.2)]).reverse

theorem handings_cons (b : Nat) (entry : Nat × Core) (entries : List (Nat × Core)) :
    handings b (entry :: entries) = handings b entries ++
      [Event.changed b (.assigned entry.1 entry.2), .offered b entry.1 entry.2] := by
  simp [handings]

/-- A remark is about no change, so it calls for no announcement. -/
theorem published_remark {e : Event} (he : e.isRemark = true) (b : Nat) (events : List Event) :
    published b (e :: events) = published b events := by
  rw [published, published, changesOf_remark he]

namespace Scene

variable {s s' s₁ : Scene} {b : Nat} {g : Registry Core} {changes : Channel Statistics}
  {entries : List (Nat × Core)}

/-- Requests are seen on the stage. -/
theorem request?_eq_stage (s : Scene) (b id : Nat) :
    s.request? b id = (s.stage.boards[b]?).bind (·.1.get? id) := by
  simp only [request?, stage, List.getElem?_map, Option.bind_map]
  rfl

/-- The cores have been assigned to the requests beside them, in order, with one announcement each, and
nothing else was done to any registry. -/
structure Serves (b : Nat) (g : Registry Core) (changes : Channel Statistics) (s : Scene)
    (entries : List (Nat × Core)) (s' : Scene) : Prop where
  story : s'.story = handings b entries ++ s.story
  stage : s'.stage =
    s.stage.setBoard b (g.serveAll entries, changes.announceAll (g.countsOf entries))
  published : published b s'.story = published b s.story ++ g.countsOf entries

theorem serves_nil (hboard : s.stage.boards[b]? = some (g, changes)) : Serves b g changes s [] s where
  story := rfl
  stage := by
    obtain ⟨hlt, hget⟩ := List.getElem?_eq_some_iff.mp hboard
    show s.stage = s.stage.setBoard b (g, changes)
    rw [Stage.setBoard, ← hget, List.set_getElem_self]
  published := (List.append_nil _).symm

/-- A request that waits takes the core it is passed, and that is announced once. -/
theorem IsSound.assignCore_of_isWaiting (hs : s.IsSound)
    (hboard : s.stage.boards[b]? = some (g, changes)) {r : Request Core} (hr : r ∈ g.requests)
    (hwaiting : r.isWaiting = true) (core : Core) :
    ∃ s', s.assignCore b r.id core = .ok s' ∧ s'.IsSound ∧
      s'.story = .changed b (.assigned r.id core) :: s.story ∧
      s'.stage = s.stage.setBoard b (g.serve (r.id, core),
        (changes.announce (g.serve (r.id, core)).statistics).2) ∧
      CoreBroker.published b s'.story =
        CoreBroker.published b s.story ++ [(g.serve (r.id, core)).statistics] := by
  obtain ⟨hids, hcoherent⟩ := hs.stage.requests hboard
  have hassign := Registry.assign_of_isWaiting hids hr (hcoherent r hr) hwaiting core
  obtain ⟨s', hok⟩ : ∃ s', s.assignCore b r.id core = .ok s' := by
    obtain ⟨board, hfound, rfl, -⟩ := board_of_stage hboard
    exact ⟨_, by simp only [assignCore, hfound, hassign]; rfl⟩
  have hperforms := performs_assignCore hok
  have hstory : s'.story = .changed b (.assigned r.id core) :: s.story := hperforms.story
  refine ⟨s', hok, hs.performs hperforms, hstory, ?_, ?_⟩
  · have hstage := hperforms.stage
    generalize s'.stage = after at hstage
    cases hstage with
    | changed hboard' hbecomes =>
      cases hbecomes with
      | assigned hassign' =>
        rw [hboard, Option.some.injEq, Prod.mk.injEq] at hboard'
        obtain ⟨rfl, rfl⟩ := hboard'
        rw [Except.ok.inj (hassign.symm.trans hassign')]
        rfl
  · have hcounted := (hs.told b g changes hboard).counted_cons (.assigned hassign)
    rw [hstory, CoreBroker.published, CoreBroker.published, changesOf_changed, hcounted]
    simp [Registry.isAnnounced]

/-- After one request has been served, the others are. -/
theorem Serves.after {r : Nat} {core : Core} {s₂ : Scene}
    (hstory : s₂.story = .changed b (.assigned r core) :: .offered b r core :: s.story)
    (hstage : s₂.stage = s.stage.setBoard b (g.serve (r, core),
      (changes.announce (g.serve (r, core)).statistics).2))
    (hpublished : CoreBroker.published b s₂.story =
      CoreBroker.published b s.story ++ [(g.serve (r, core)).statistics])
    (hrest : Serves b (g.serve (r, core)) (changes.announce (g.serve (r, core)).statistics).2 s₂
      entries s') : Serves b g changes s ((r, core) :: entries) s' where
  story := by
    rw [hrest.story, hstory, handings_cons]
    simp
  stage := by
    rw [hrest.stage, hstage, setBoard_setBoard]
    rfl
  published := by
    rw [hrest.published, hpublished, List.append_assoc]
    rfl

end Scene

namespace Speculative

/-- Requests that wait are served in order, one core to each. -/
theorem assign_serves (f : Speculative) : ∀ (requests : List (Request Core)) (ready : List Ready)
    {s : Scene} {g : Registry Core} {changes : Channel Statistics}, s.IsSound →
    s.stage.boards[f.board]? = some (g, changes) → (requests.map (·.id)).Nodup →
    (∀ r ∈ requests, r ∈ g.requests ∧ r.isWaiting = true) →
      (f.assign s (requests.map (·.id)) ready).pending = requests.length - ready.length ∧
      (f.assign s (requests.map (·.id)) ready).leftovers = ready.drop requests.length ∧
      Scene.Serves f.board g changes s ((requests.zip ready).map fun p => (p.1.id, p.2.2))
        (f.assign s (requests.map (·.id)) ready).scene := by
  intro requests
  induction requests with
  | nil =>
    intro ready s g changes _ hboard _ _
    exact ⟨(Nat.zero_sub _).symm, rfl, Scene.serves_nil hboard⟩
  | cons r requests ih =>
    intro ready s g changes hs hboard hids hwait
    cases ready with
    | nil => exact ⟨by simp [assign], by simp [assign], Scene.serves_nil hboard⟩
    | cons entry ready =>
      obtain ⟨id, core⟩ := entry
      rw [List.map_cons, List.nodup_cons] at hids
      obtain ⟨hr, hwaiting⟩ := hwait r List.mem_cons_self
      have hremark : (Event.offered f.board r.id core).isRemark = true := rfl
      obtain ⟨s₁, hok, hs₁, hstory, hstage, hpublished⟩ :=
        (hs.performs (s.performs_note hremark)).assignCore_of_isWaiting hboard hr hwaiting core
      have haside := (s₁.aside_report .trace "request fulfilled"
        [providerField id, ("request_id", .naming r.id)]).trans (Scene.aside_trace _ f.sink
          traceSource (Phrase.ofText "fulfilled request " ++ Phrase.naming r.id
            ++ Phrase.ofText (" from " ++ id)))
      -- The requests that come next still wait: only this one was changed.
      have hrest : ∀ q ∈ requests, q ∈ (g.serve (r.id, core)).requests ∧ q.isWaiting = true := by
        intro q hq
        obtain ⟨hmem, hqwaiting⟩ := hwait q (List.mem_cons_of_mem _ hq)
        have hne : q.id ≠ r.id := fun hsame => hids.1 (hsame ▸ List.mem_map_of_mem hq)
        exact ⟨Registry.mem_modify.mpr ⟨q, hmem, by simp [hne]⟩, hqwaiting⟩
      obtain ⟨hpending, hleftovers, hserves⟩ := ih ready (hs₁.aside haside)
        (by rw [haside.stage, hstage]; exact Scene.boards_setBoard hboard _) hids.2 hrest
      simp only [List.map_cons, assign, hok, List.length_cons, List.drop_succ_cons,
        List.zip_cons_cons]
      refine ⟨hpending.trans (Nat.add_sub_add_right _ 1 _).symm, hleftovers,
        Scene.Serves.after (haside.story.trans hstory) (haside.stage.trans hstage) ?_ hserves⟩
      rw [haside.story, hpublished]
      exact congrArg (· ++ _) (published_remark hremark f.board s.story)

end Speculative

end CoreBroker
