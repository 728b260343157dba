import CoreBroker.Proofs.Lists
import CoreBroker.Proofs.Registry.Candidates
import CoreBroker.Proofs.Scene.Boards
import CoreBroker.Proofs.Scene.Marks
set_option autoImplicit false

/-!
# How often a request is reserved

Reserving a request marks it, and only a request that is not marked can be reserved; giving the
reservation up clears the mark, if it is there.  So the marks keep pace with the reservations that are
made and given up.
-/

namespace CoreBroker

namespace Registry

variable {κ : Type} {g g' : Registry κ} {id : Nat}

/-- Once if the request `id` is reserved, and not at all otherwise. -/
def marked (g : Registry κ) (id : Nat) : Nat := g.requests.countP fun r => r.id == id && r.isReserved

theorem marked_eq_of_mem (hids : (g.requests.map (·.id)).Nodup) {r : Request κ}
    (hmem : r ∈ g.requests) : g.marked r.id = r.isReserved.toNat :=
  countP_key hids hmem (·.isReserved)

theorem marked_eq_zero (hnone : ∀ r ∈ g.requests, r.id = id → r.isReserved = false) :
    g.marked id = 0 := by
  refine List.countP_eq_zero.mpr fun r hr hmarked => ?_
  simp only [Bool.and_eq_true, beq_iff_eq] at hmarked
  rw [hnone r hr hmarked.1] at hmarked
  exact Bool.false_ne_true hmarked.2

theorem marked_le_one (hids : (g.requests.map (·.id)).Nodup) (id : Nat) : g.marked id ≤ 1 := by
  by_cases hknown : ∃ r ∈ g.requests, r.id = id
  · obtain ⟨r, hmem, rfl⟩ := hknown
    rw [marked_eq_of_mem hids hmem]
    exact Bool.toNat_le _
  · rw [marked_eq_zero fun r hr hid => absurd ⟨r, hr, hid⟩ hknown]
    exact Nat.zero_le 1

theorem marked_pos_iff : 0 < g.marked id ↔ ∃ r ∈ g.requests, r.id = id ∧ r.isReserved = true := by
  simp only [marked, List.countP_pos_iff, Bool.and_eq_true, beq_iff_eq]

/-- Changing a request in a way that does not show in its mark leaves all marks. -/
theorem marked_modify (n : Nat) {f : Request κ → Request κ}
    (hf : ∀ r ∈ g.requests, r.id = n → (f r).id = r.id ∧ (f r).isReserved = r.isReserved) :
    (g.modify n f).marked id = g.marked id := by
  simp only [marked, modify, List.countP_map]
  refine List.countP_congr fun r hr => ?_
  by_cases hn : r.id = n
  · obtain ⟨hid, hreserved⟩ := hf r hr hn
    simp only [Function.comp_apply, beq_iff_eq.mpr hn, if_true, hid, hreserved]
  · simp only [Function.comp_apply, beq_eq_false_iff_ne.mpr hn, Bool.false_eq_true, if_false]

theorem marked_assign (hids : (g.requests.map (·.id)).Nodup) {n : Nat} {core : κ}
    (hassign : g.assign n core = .ok g') : g'.marked id = g.marked id := by
  obtain ⟨r, r', hget, hr, rfl⟩ := assign_eq_ok hassign
  obtain ⟨hmem, rfl⟩ := get?_eq_some hget
  refine marked_modify r.id fun q hq hid => ?_
  rw [List.inj_on_of_nodup_map hids hq hmem hid, Request.eq_of_assign hr]
  exact ⟨rfl, rfl⟩

theorem marked_enter {r : Request κ} (hfresh : r.IsFresh) : (g.enter r).marked id = g.marked id := by
  simp [marked, enter, hfresh.isReserved]

/-- A reservation that is given up leaves no mark, and the others as they are. -/
theorem marked_unreserve (n : Nat) :
    (g.unreserve n).marked id = if n = id then 0 else g.marked id := by
  split
  · rename_i hn
    refine marked_eq_zero fun q hq hid => ?_
    obtain ⟨r, -, rfl⟩ := mem_modify.mp hq
    by_cases hr : r.id = n
    · simp [hr]
    · rw [if_neg (by simpa using hr)] at hid
      exact absurd (hid.trans hn.symm) hr
  · rename_i hn
    simp only [marked, unreserve, modify, List.countP_map]
    refine List.countP_congr fun r _ => ?_
    by_cases hr : r.id = n
    · simp [hr, hn]
    · simp [hr]

theorem marked_reserve (hids : (g.requests.map (·.id)).Nodup) {r : Request κ}
    (hmem : r ∈ g.requests) (hfree : r.isReserved = false) :
    (g.reserve r.id).marked id = g.marked id + (decide (r.id = id)).toNat := by
  have hreplace := countP_replace hids hmem rfl (fun q => { q with isReserved := true })
    fun q => q.id == id && q.isReserved
  simp only [hfree, Bool.and_false, Bool.toNat_false, Nat.add_zero, Bool.and_true] at hreplace
  rw [← beq_eq_decide]
  exact hreplace

/-- A change makes at least one more mark for each reservation made, and takes at most one away for each
given up. -/
theorem Becomes.marked_le [DecidableEq κ] (hids : (g.requests.map (·.id)).Nodup)
    {change : RegistryChange κ} (hbecomes : g.Becomes change g') (id : Nat) :
    g.marked id + [change].count (.reserved id) ≤ g'.marked id + [change].count (.unreserved id) := by
  cases hbecomes with
  | entered _ hfresh => simp [marked_enter hfresh]
  | assigned hassign => simp [marked_assign hids hassign]
  | @taken r n core _ _ =>
    have hsame : (g.empty n).marked id = g.marked id := marked_modify n fun _ _ _ => ⟨rfl, rfl⟩
    simp [hsame]
  | @disposed r n _ =>
    have hsame : (g.dispose n).marked id = g.marked id := marked_modify n fun _ _ _ => ⟨rfl, rfl⟩
    simp [hsame]
  | @reserved r hmem hcandidate =>
    have hfree : r.isReserved = false := by
      simp only [Request.isCandidate, Bool.and_eq_true, Bool.not_eq_true'] at hcandidate
      exact hcandidate.1.2
    rw [marked_reserve hids hmem hfree, count_cons_toNat]
    simp
  | @unreserved n =>
    have hone := marked_le_one hids id
    rw [marked_unreserve, count_cons_toNat]
    by_cases hn : n = id
    · simp [hn]
      exact hone
    · simp [hn]

/-! ## Views without some of the requests -/

section Views

variable {p : Request κ → Bool}

/-- Leaving requests out that nobody may look at shows in no view of a fulfiller. -/
theorem filter_filter_of_candidate (hp : ∀ r ∈ g.requests, r.isCandidate .all = true → p r = true)
    {q : Request κ → Bool} (hq : ∀ r, q r = true → r.isCandidate .all = true) :
    (g.requests.filter p).filter q = g.requests.filter q := by
  rw [List.filter_filter]
  refine List.filter_congr fun r hr => ?_
  cases hqr : q r with
  | false => rfl
  | true => simp [hp r hr (hq r hqr)]

theorem isCandidate_of_isAgedRemote {includeLocal : Bool} {remoteDelay : Option Nat} {now : Nat}
    {r : Request κ} (haged : r.isAgedRemote includeLocal remoteDelay now = true) :
    r.isCandidate .all = true := by
  simp only [Request.isAgedRemote, Bool.and_eq_true] at haged
  exact haged.2

variable (hp : ∀ r ∈ g.requests, r.isCandidate .all = true → p r = true)

include hp

theorem candidateCount_filter (c : Constraint) :
    candidateCount ⟨g.requests.filter p⟩ c = g.candidateCount c := by
  have hsame := filter_filter_of_candidate hp (q := (·.isCandidate c)) fun _ => Request.isCandidate_all
  simp only [candidateCount, List.countP_eq_length_filter, hsame]

theorem next?_filter (includeLocal : Bool) (remoteDelay : Option Nat) (now : Nat) :
    next? ⟨g.requests.filter p⟩ includeLocal remoteDelay now =
      g.next? includeLocal remoteDelay now := by
  have hprimary := filter_filter_of_candidate hp
    (q := (·.isCandidate (primaryConstraint includeLocal))) fun _ => Request.isCandidate_all
  have haged := filter_filter_of_candidate hp (q := (·.isAgedRemote includeLocal remoteDelay now))
    fun _ => isCandidate_of_isAgedRemote
  simp only [next?, hprimary, haged]

theorem hasNext_filter (includeLocal : Bool) (remoteDelay : Option Nat) (now : Nat) :
    hasNext ⟨g.requests.filter p⟩ includeLocal remoteDelay now =
      g.hasNext includeLocal remoteDelay now := by
  rw [hasNext, hasNext, List.any_filter, Bool.eq_iff_iff, List.any_eq_true, List.any_eq_true]
  constructor
  · rintro ⟨r, hr, hnext⟩
    exact ⟨r, hr, (Bool.and_eq_true _ _ ▸ hnext).2⟩
  · rintro ⟨r, hr, hnext⟩
    refine ⟨r, hr, Bool.and_eq_true _ _ ▸ ⟨hp r hr ?_, hnext⟩⟩
    rcases Bool.or_eq_true _ _ ▸ hnext with hprimary | haged
    · exact Request.isCandidate_all hprimary
    · exact isCandidate_of_isAgedRemote haged

end Views

end Registry

/-- How often the request `id` of the registry `b` is reserved. -/
def Stage.marked (st : Stage) (b id : Nat) : Nat := (st.board b).1.marked id

namespace Stage

variable {st : Stage} {b id : Nat}

theorem IsSound.board_ids (hst : st.IsSound) (b : Nat) :
    ((st.board b).1.requests.map (·.id)).Nodup := by
  cases hboard : st.boards[b]? with
  | some x =>
    rw [board_eq hboard]
    exact (hst.requests hboard).1
  | none =>
    rw [board, hboard]
    exact List.nodup_nil

theorem marked_pos_iff : 0 < st.marked b id ↔ st.IsMarked b id := by
  rw [marked, Registry.marked_pos_iff]
  constructor
  · intro hr
    cases hboard : st.boards[b]? with
    | some x =>
      rw [board_eq hboard] at hr
      exact ⟨x.1, x.2, hboard, hr⟩
    | none =>
      rw [board, hboard] at hr
      obtain ⟨r, hr, -⟩ := hr
      exact absurd hr List.not_mem_nil
  · rintro ⟨g, changes, hboard, hr⟩
    rw [board_eq hboard]
    exact hr

/-- Whoever looks at candidates finds nothing that is reserved. -/
theorem IsSound.marked_of_candidate (hst : st.IsSound) {g : Registry Core}
    {changes : Channel Statistics} (hboard : st.boards[b]? = some (g, changes)) {c : Constraint}
    (hid : id ∈ (g.candidates c).map (·.id)) : st.marked b id = 0 := by
  obtain ⟨r, hr, rfl⟩ := List.mem_map.mp hid
  obtain ⟨hmem, hcandidate⟩ := Registry.mem_candidates.mp hr
  rw [marked, board_eq hboard, Registry.marked_eq_of_mem (hst.requests hboard).1 hmem]
  simp only [Request.isCandidate, Bool.and_eq_true, Bool.not_eq_true'] at hcandidate
  rw [hcandidate.1.2]
  rfl

theorem IsSound.marked_le_one (hst : st.IsSound) (b id : Nat) : st.marked b id ≤ 1 :=
  Registry.marked_le_one (hst.board_ids b) id

end Stage

namespace Scene

variable {may : Stage → Act → Prop} {s s' : Scene} {events : List Event}

theorem Performs.marked_le (hs : s.stage.IsSound) {act : Act} (hperforms : Performs act s s')
    (b id : Nat) : s.stage.marked b id + act.events.count (.changed b (.reserved id)) ≤
      s'.stage.marked b id + act.events.count (.changed b (.unreserved id)) := by
  have heffect := hperforms.stage.boardEffect b
  rw [← count_changesOf, ← count_changesOf, Stage.marked, Stage.marked]
  generalize s'.stage.board b = after at heffect
  cases heffect with
  | @changed change g' hact hbecomes =>
    have hevents : changesOf b act.events = [change] := by simp [hact, Act.events, changesOf]
    rw [hevents]
    exact hbecomes.marked_le (hs.board_ids b) id
  | kept hevents _ => rw [hevents]; exact Nat.le_refl _

/-- Whatever is done, there is at least one more mark for each reservation made, and at most one less for
each given up. -/
theorem ActSequence.marked_le (hs : s.stage.IsSound) (hacts : ActSequence may s events s') (b id : Nat) :
    s.stage.marked b id + events.count (.changed b (.reserved id)) ≤
      s'.stage.marked b id + events.count (.changed b (.unreserved id)) := by
  induction hacts with
  | refl => exact Nat.le_refl _
  | aside _ haside ih =>
    rw [haside.stage]
    exact ih
  | act hacts _ hperforms ih =>
    have hstep := hperforms.marked_le (hacts.stage_isSound hs) b id
    rw [List.count_append, List.count_append]
    omega

end Scene

end CoreBroker
