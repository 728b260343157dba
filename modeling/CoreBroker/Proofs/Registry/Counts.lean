import CoreBroker.Proofs.Scene.Stage
set_option autoImplicit false

/-!
# The counts of a registry

The counts can be made anew by going through the live requests, and a change of the registry turns
them in one of three ways or not at all: a request is created, a request that waited is fulfilled and
keeps its locality, or a request is removed.  A registry is what its changes make of an empty one, so
the counts it went through can be told from its changes alone.
-/

namespace CoreBroker

/-! ## Counts -/

namespace Statistics

/-- What one creation, one fulfilment or one removal makes of the counts. -/
inductive CountStep : Statistics → Statistics → Prop
  | created (s : Statistics) (isLocal : Bool) : CountStep s (s.add false isLocal)
  | fulfilled (others : Statistics) (isLocal : Bool) :
      CountStep (others.add false isLocal) (others.add true isLocal)
  | removed (others : Statistics) (isAssigned isLocal : Bool) :
      CountStep (others.add isAssigned isLocal) others

theorem add_comm (s : Statistics) (isAssigned isLocal isAssigned' isLocal' : Bool) :
    (s.add isAssigned isLocal).add isAssigned' isLocal' =
      (s.add isAssigned' isLocal').add isAssigned isLocal := by
  cases isAssigned <;> cases isLocal <;> cases isAssigned' <;> cases isLocal' <;> rfl

end Statistics

namespace Registry

variable {κ : Type}

/-- The counts of live requests, each made anew by going through the list. -/
def tally (g : Registry κ) : Statistics where
  unfulfilledLocal := g.listed.countP fun r => !r.isAssigned && r.preference.isLocal
  unfulfilledRemotable := g.listed.countP fun r => !r.isAssigned && !r.preference.isLocal
  fulfilledLocal := g.listed.countP fun r => r.isAssigned && r.preference.isLocal
  fulfilledRemotable := g.listed.countP fun r => r.isAssigned && !r.preference.isLocal

/-- Which requests are live, oldest first, and which of them were assigned a core. -/
def entries (g : Registry κ) : List (Nat × Bool) := g.listed.map fun r => (r.id, r.isAssigned)

/-- Adding up the requests one by one comes to the same as counting each sort. -/
theorem foldl_add (rs : List (Request κ)) (s : Statistics) :
    rs.foldl (fun s r => s.add r.isAssigned r.preference.isLocal) s =
      ⟨s.unfulfilledLocal + rs.countP fun r => !r.isAssigned && r.preference.isLocal,
        s.unfulfilledRemotable + rs.countP fun r => !r.isAssigned && !r.preference.isLocal,
        s.fulfilledLocal + rs.countP fun r => r.isAssigned && r.preference.isLocal,
        s.fulfilledRemotable + rs.countP fun r => r.isAssigned && !r.preference.isLocal⟩ := by
  induction rs generalizing s with
  | nil => rfl
  | cons r rs ih =>
    rw [List.foldl_cons, ih]
    cases hassigned : r.isAssigned <;> cases hlocal : r.preference.isLocal <;>
      simp [Statistics.add, hassigned, hlocal] <;> omega

theorem statistics_eq_tally (g : Registry κ) : g.statistics = g.tally := by
  unfold statistics tally
  rw [foldl_add]
  simp [Statistics.zero]

/-- A request counts no matter where it stands. -/
theorem foldl_add_comm (rs : List (Request κ)) (s : Statistics) (isAssigned isLocal : Bool) :
    rs.foldl (fun s r => s.add r.isAssigned r.preference.isLocal) (s.add isAssigned isLocal) =
      (rs.foldl (fun s r => s.add r.isAssigned r.preference.isLocal) s).add isAssigned isLocal := by
  induction rs generalizing s with
  | nil => rfl
  | cons r rs ih => rw [List.foldl_cons, List.foldl_cons, Statistics.add_comm, ih]

/-- A live request adds one to the counts of the others. -/
theorem statistics_insert (before after : List (Request κ)) {r : Request κ}
    (hlisted : r.isListed = true) :
    statistics ⟨before ++ r :: after⟩ =
      (statistics ⟨before ++ after⟩).add r.isAssigned r.preference.isLocal := by
  simp only [statistics, listed, List.filter_append, List.filter_cons_of_pos hlisted,
    List.foldl_append, List.foldl_cons, foldl_add_comm]

/-- A request that is not live any more does not count. -/
theorem statistics_insert_of_unlisted (before after : List (Request κ)) {r : Request κ}
    (hlisted : r.isListed = false) :
    statistics ⟨before ++ r :: after⟩ = statistics ⟨before ++ after⟩ := by
  simp [statistics, listed, List.filter_append, hlisted]

/-! ## One request of a registry, and the others -/

/-- With one request to a number, changing it leaves the others where they are. -/
theorem exists_modify_eq {g : Registry κ} (hids : (g.requests.map (·.id)).Nodup) {r : Request κ}
    (hmem : r ∈ g.requests) : ∃ before after, g = ⟨before ++ r :: after⟩ ∧
      ∀ f, g.modify r.id f = ⟨before ++ f r :: after⟩ := by
  obtain ⟨before, after, hsplit⟩ := List.append_of_mem hmem
  refine ⟨before, after, congrArg Registry.mk hsplit, fun f => ?_⟩
  rw [hsplit, List.map_append, List.map_cons, List.nodup_middle, List.nodup_cons] at hids
  have hothers : ∀ q ∈ before ++ after, (if q.id == r.id then f q else q) = q := by
    intro q hq
    have hne : q.id ≠ r.id := fun heq =>
      hids.1 (by rw [← List.map_append, ← heq]; exact List.mem_map_of_mem hq)
    simp only [beq_eq_false_iff_ne.mpr hne, Bool.false_eq_true, if_false]
  have hbefore := List.map_congr_left fun q hq => hothers q (List.mem_append_left after hq)
  have hafter := List.map_congr_left fun q hq => hothers q (List.mem_append_right before hq)
  simp only [modify, hsplit, List.map_append, List.map_cons, hbefore, hafter, List.map_id',
    beq_self_eq_true, if_true]

/-- A change that keeps what a request counts as changes neither the counts nor the entries. -/
theorem modify_keeps {g : Registry κ} {id : Nat} {f : Request κ → Request κ}
    (hf : ∀ r, (f r).id = r.id ∧ (f r).isListed = r.isListed ∧ (f r).isAssigned = r.isAssigned ∧
      (f r).preference = r.preference) :
    (g.modify id f).statistics = g.statistics ∧ (g.modify id f).entries = g.entries := by
  obtain ⟨requests⟩ := g
  have hone : ∀ r : Request κ, (if r.id == id then f r else r).id = r.id ∧
      (if r.id == id then f r else r).isListed = r.isListed ∧
      (if r.id == id then f r else r).isAssigned = r.isAssigned ∧
      (if r.id == id then f r else r).preference = r.preference := by
    intro r
    split
    · exact hf r
    · exact ⟨rfl, rfl, rfl, rfl⟩
  constructor
  · simp only [statistics, listed, modify, List.filter_map, List.foldl_map, Function.comp_def, hone]
  · simp only [entries, listed, modify, List.filter_map, List.map_map, Function.comp_def, hone]

/-! ## What a change makes of the counts -/

/-- A change is announced just if it changes which requests are live or which of them were assigned a
core, and then it turns the counts; otherwise they stay as they are. -/
structure Accords (g : Registry Core) (change : RegistryChange Core) (g' : Registry Core) : Prop where
  entries : g.isAnnounced change = true ↔ g'.entries ≠ g.entries
  countStep : g.isAnnounced change = true → g.statistics.CountStep g'.statistics
  keeps : g.isAnnounced change = false → g'.statistics = g.statistics

theorem Accords.of_keeps {g g' : Registry Core} {change : RegistryChange Core}
    (hquiet : g.isAnnounced change = false)
    (hkeeps : g'.statistics = g.statistics ∧ g'.entries = g.entries) : g.Accords change g' where
  entries := by simp [hquiet, hkeeps.2]
  countStep h := absurd (hquiet.symm.trans h) Bool.false_ne_true
  keeps _ := hkeeps.1

theorem Accords.of_countStep {g g' : Registry Core} {change : RegistryChange Core}
    (hannounced : g.isAnnounced change = true) (hne : g'.entries ≠ g.entries)
    (hcountStep : g.statistics.CountStep g'.statistics) : g.Accords change g' where
  entries := by simp [hannounced, hne]
  countStep _ := hcountStep
  keeps h := absurd (hannounced.symm.trans h) (by simp)

/-- What a registry becomes accords with the change, as long as its requests are coherent. -/
theorem Becomes.accords {g g' : Registry Core} {change : RegistryChange Core}
    (hids : (g.requests.map (·.id)).Nodup) (hcoherent : ∀ r ∈ g.requests, r.IsCoherent)
    (hbecomes : g.Becomes change g') : g.Accords change g' := by
  cases hbecomes with
  | @entered r hnew hfresh =>
    have hcounts := statistics_insert g.requests [] hfresh.isListed
    rw [hfresh.isAssigned, List.append_nil] at hcounts
    refine .of_countStep rfl ?_ ?_
    · simp [entries, listed, enter, hfresh.isListed]
    · exact hcounts ▸ .created _ _
  | @assigned _ id core hassign =>
    obtain ⟨r, r', hget, hr, rfl⟩ := assign_eq_ok hassign
    obtain ⟨hmem, rfl⟩ := get?_eq_some hget
    obtain ⟨before, after, hg, hmodify⟩ := exists_modify_eq hids hmem
    obtain rfl := Request.eq_of_assign hr
    rw [(hcoherent r hmem).assign_eq] at hr
    have hstate : r.isAssigned = false ∧ r.isListed = true := by
      split at hr
      · exact absurd hr (by simp)
      · split at hr
        · exact ⟨Bool.eq_false_iff.mpr ‹_›, ‹_›⟩
        · exact absurd hr (by simp)
    have hbefore := statistics_insert before after hstate.2
    rw [hmodify, hg]
    refine .of_countStep rfl ?_ ?_
    · simp [entries, listed, hstate]
    · rw [hbefore, hstate.1, statistics_insert before after (by exact hstate.2)]
      exact .fulfilled _ _
  | @taken r id core hget hcore =>
    exact .of_keeps rfl (modify_keeps fun _ => ⟨rfl, rfl, rfl, rfl⟩)
  | @disposed r id hget =>
    obtain ⟨hmem, rfl⟩ := get?_eq_some hget
    obtain ⟨before, after, hg, hmodify⟩ := exists_modify_eq hids hmem
    have hannounced : g.isAnnounced (.disposed r.id r.core) = r.isListed := by simp [isAnnounced, hget]
    have hafter := statistics_insert_of_unlisted before after (r := r.disposed) rfl
    cases hlisted : r.isListed with
    | false =>
      refine .of_keeps (hannounced.trans hlisted) ?_
      rw [dispose, hmodify, hafter, hg, statistics_insert_of_unlisted before after hlisted]
      exact ⟨rfl, by simp [entries, listed, Request.disposed, hlisted]⟩
    | true =>
      refine .of_countStep (hannounced.trans hlisted) ?_ ?_
      · rw [dispose, hmodify, hg]
        intro heq
        have hlength := congrArg List.length heq
        simp [entries, listed, Request.disposed, hlisted] at hlength
      · rw [dispose, hmodify, hafter, hg, statistics_insert before after hlisted]
        exact .removed _ _ _
  | @reserved r _ _ => exact .of_keeps rfl (modify_keeps fun _ => ⟨rfl, rfl, rfl, rfl⟩)
  | @unreserved id => exact .of_keeps rfl (modify_keeps fun _ => ⟨rfl, rfl, rfl, rfl⟩)

/-! ## The counts a registry went through -/

/-- The registry after a change. -/
def apply (g : Registry κ) : RegistryChange κ → Registry κ
  | .entered r => g.enter r
  | .assigned id core => (g.assign id core).toOption.getD g
  | .taken id _ => g.empty id
  | .disposed id _ => g.dispose id
  | .reserved id => g.reserve id
  | .unreserved id => g.unreserve id

/-- The registry that changes, newest first, make of an empty one. -/
def replay (changes : List (RegistryChange κ)) : Registry κ :=
  changes.foldr (fun change g => g.apply change) {}

/-- The counts after each change of which requests are live or which of them were assigned a core,
newest first. -/
def counted : List (RegistryChange κ) → List Statistics
  | [] => []
  | change :: earlier =>
    if (replay (change :: earlier)).entries = (replay earlier).entries then counted earlier
    else (replay (change :: earlier)).tally :: counted earlier

theorem Becomes.eq_apply {g g' : Registry κ} {change : RegistryChange κ}
    (hbecomes : g.Becomes change g') : g' = g.apply change := by
  cases hbecomes with
  | assigned hassign => rw [apply, hassign]; rfl
  | _ => rfl

section Course

variable {changes : List (RegistryChange Core)} {change : RegistryChange Core}
  {g g' : Registry Core}

theorem Course.eq_replay (hcourse : Course changes g) : g = replay changes := by
  induction hcourse with
  | start => rfl
  | next _ hbecomes ih => rw [hbecomes.eq_apply, ih]; rfl

theorem Course.accords (hcourse : Course changes g) (hbecomes : g.Becomes change g') :
    g.Accords change g' :=
  hbecomes.accords hcourse.registryHistory.ids fun r hr => (hcourse.registryHistory.requests r hr).coherent

/-- A change that is announced is counted, and no other is. -/
theorem Course.counted_cons (hcourse : Course changes g) (hbecomes : g.Becomes change g') :
    counted (change :: changes) =
      if g.isAnnounced change then g'.statistics :: counted changes else counted changes := by
  have hafter := (hcourse.next hbecomes).eq_replay
  have haccords := hcourse.accords hbecomes
  rw [counted, ← hafter, ← hcourse.eq_replay, ← statistics_eq_tally]
  cases hannounced : g.isAnnounced change with
  | true => rw [if_neg (haccords.entries.mp hannounced)]; rfl
  | false =>
    have hsame : g'.entries = g.entries := by
      by_contra hne
      exact Bool.false_ne_true (hannounced.symm.trans (haccords.entries.mpr hne))
    rw [if_pos hsame]
    rfl

/-- The newest of the counts are those of the registry as it is. -/
theorem Course.head_counted (hcourse : Course changes g) :
    (counted changes).head?.getD .zero = g.statistics := by
  induction hcourse with
  | start => rfl
  | next hcourse hbecomes ih =>
    rw [hcourse.counted_cons hbecomes]
    split
    · rfl
    · rename_i hquiet
      rw [ih, (hcourse.accords hbecomes).keeps (Bool.eq_false_iff.mpr hquiet)]

/-- From one of the counts to the next there is one turn, and the first is one turn from no requests
at all. -/
theorem Course.isChain_counted (hcourse : Course changes g) :
    (counted changes ++ [Statistics.zero]).IsChain fun after before => before.CountStep after := by
  induction hcourse with
  | start => exact .singleton _
  | @next changes change g g' hcourse hbecomes ih =>
    rw [hcourse.counted_cons hbecomes]
    split
    · rename_i hannounced
      have hcountStep := (hcourse.accords hbecomes).countStep hannounced
      rw [← hcourse.head_counted] at hcountStep
      cases hcounted : counted changes with
      | nil => simpa [hcounted] using hcountStep
      | cons s rest =>
        rw [hcounted] at hcountStep ih
        exact List.isChain_cons_cons.mpr ⟨hcountStep, ih⟩
    · exact ih

end Course

end Registry

end CoreBroker
