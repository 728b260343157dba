import CoreBroker.Proofs.Json.Reading
import CoreBroker.Proofs.Lists
import CoreBroker.Settings.Record
set_option autoImplicit false

/-!
# The parts of a record

A record is found in an object by the names of its fields, wherever they stand; what is absent is absent.
Numbers of a limited range are read back if they are in it, and nothing else is ever read.
-/

namespace CoreBroker.Json

/-! ## Fields -/

/-- The fields called `names` that have a value. -/
def present (names : List String) (values : List (Option Json)) : List (String × Json) :=
  (names.zip values).filterMap fun (name, value) => value.map (name, ·)

/-- The value is an object with the fields called `names` that have a value, in some order, and no
others. -/
def HasFields (names : List String) (values : List (Option Json)) (j : Json) : Prop :=
  ∃ fields, j = .object fields ∧ fields.Perm (present names values)

theorem hasFields_present (names : List String) (values : List (Option Json)) :
    HasFields names values (.object (present names values)) := ⟨_, rfl, .refl _⟩

/-- Fields with names of their own, in another order, are found all the same. -/
theorem find?_perm {fields fields' : List (String × Json)} (hperm : fields.Perm fields')
    (hnames : (fields'.map Prod.fst).Nodup) (name : String) :
    fields.find? (·.1 == name) = fields'.find? (·.1 == name) := by
  have hnames' : (fields.map Prod.fst).Nodup := (hperm.map Prod.fst).nodup_iff.mpr hnames
  cases hfind : fields'.find? (·.1 == name) with
  | none =>
    rw [List.find?_eq_none] at hfind ⊢
    exact fun f hf => hfind f (hperm.mem_iff.mp hf)
  | some f =>
    have hname : f.1 = name := by simpa using List.find?_some hfind
    have hmem := hperm.mem_iff.mpr (List.mem_of_find?_eq_some hfind)
    rw [← hname]
    exact find?_key hnames' hmem

theorem map_fst_present_sublist (names : List String) (values : List (Option Json)) :
    ((present names values).map Prod.fst).Sublist names := by
  induction names generalizing values with
  | nil => exact List.Sublist.refl _
  | cons name names ih =>
    cases values with
    | nil => exact List.nil_sublist _
    | cons value values =>
      cases value with
      | none => exact (ih values).cons name
      | some j => exact (ih values).cons_cons name

theorem find?_present {names : List String} (hnames : names.Nodup) {values : List (Option Json)}
    (hlength : names.length = values.length) :
    (names.map fun name => ((present names values).find? (·.1 == name)).map (·.2)) = values := by
  induction names generalizing values with
  | nil => exact (List.eq_nil_of_length_eq_zero hlength.symm).symm
  | cons name names ih =>
    cases values with
    | nil => exact absurd hlength (by simp)
    | cons value values =>
      obtain ⟨hnot, hnames⟩ := List.nodup_cons.mp hnames
      have hrest := ih hnames (Nat.succ.inj hlength)
      cases value with
      | none =>
        -- Nobody else has the name, and the other fields are where they were.
        have hskip : present (name :: names) (none :: values) = present names values := rfl
        have hnone : (present names values).find? (·.1 == name) = none := by
          rw [List.find?_eq_none]
          intro f hf hname
          have hmem := (map_fst_present_sublist names values).mem (List.mem_map_of_mem hf)
          exact hnot ((beq_iff_eq.mp hname) ▸ hmem)
        rw [List.map_cons, hskip, hnone, hrest]
        rfl
      | some j =>
        have hfront : present (name :: names) (some j :: values) = (name, j) :: present names values :=
          rfl
        rw [List.map_cons, hfront, List.find?_cons_of_pos (by simp)]
        refine congrArg₂ _ rfl (.trans (List.map_congr_left fun other hother => ?_) hrest)
        have hne : name ≠ other := fun heq => hnot (heq ▸ hother)
        rw [List.find?_cons_of_neg (by simpa using hne)]

/-- A record that was written is found with the fields it was written with. -/
theorem record?_of_hasFields {names : List String} (hnames : names.Nodup)
    {values : List (Option Json)} (hlength : names.length = values.length) {j : Json}
    (hj : HasFields names values j) : record? names j = some values := by
  obtain ⟨fields, rfl, hperm⟩ := hj
  have hkeys := (map_fst_present_sublist names values).nodup hnames
  have hduplicate : hasDuplicate names fields = false := by
    rw [hasDuplicate, List.any_eq_false]
    intro name _
    have hcount := List.nodup_iff_count_le_one.mp ((hperm.map Prod.fst).nodup_iff.mpr hkeys) name
    rw [decide_eq_true_iff]
    exact Nat.not_le_of_lt (Nat.lt_succ_of_le hcount)
  have hfound := find?_present hnames hlength
  rw [record?, hduplicate, ← hfound]
  simp only [find?_perm hperm hkeys, hfound]
  rfl

/-- A record that was written with all its fields is found with all of them. -/
theorem record?_zip {names : List String} (hnames : names.Nodup) {values : List Json}
    (hlength : names.length = values.length) :
    record? names (.object (names.zip values)) = some (values.map some) := by
  have hall : present names (values.map some) = names.zip values := by
    induction names generalizing values with
    | nil => rfl
    | cons name names ih =>
      cases values with
      | nil => rfl
      | cons value values =>
        exact congrArg ((name, value) :: ·) (ih hnames.of_cons (Nat.succ.inj hlength))
  rw [← hall]
  exact record?_of_hasFields hnames (by rw [hlength, List.length_map])
    (hasFields_present names (values.map some))

theorem arePlainFields_iff {fields : List (String × Json)} :
    arePlainFields fields = true ↔ ∀ f ∈ fields, f.2.isPlain = true := by
  induction fields with
  | nil => simp [arePlainFields]
  | cons f rest ih => simp [arePlainFields, ih]

theorem isPlain_present {names : List String} {values : List (Option Json)}
    (hvalues : ∀ j, some j ∈ values → j.isPlain = true) :
    (Json.object (present names values)).isPlain = true := by
  rw [isPlain, arePlainFields_iff]
  intro f hf
  obtain ⟨⟨name, value⟩, hmem, heq⟩ := List.mem_filterMap.mp hf
  obtain ⟨j, rfl, rfl⟩ := Option.map_eq_some_iff.mp heq
  exact hvalues j (List.of_mem_zip hmem).2

/-! ## Numbers -/

theorem nat?_count {bits n : Nat} (hn : n < Nat.pow 2 bits) : nat? bits (.count n) = some n :=
  if_pos hn

theorem lt_of_nat? {bits n : Nat} {j : Json} (h : nat? bits j = some n) : n < Nat.pow 2 bits := by
  unfold nat? at h
  split at h
  · obtain ⟨hlt, heq⟩ := Option.ite_none_right_eq_some.mp h
    exact Option.some.inj heq ▸ hlt
  · exact absurd h (by simp)

theorem uint64?_jsonOfUInt64 (n : UInt64) : uint64? (jsonOfUInt64 n) = some n := by
  rw [uint64?, jsonOfUInt64, nat?_count n.toNat_lt, Option.map_some, UInt64.ofNat_toNat]

theorem nullable?_jsonOfUInt64 (n : UInt64) : nullable? uint64? (jsonOfUInt64 n) = some (some n) := by
  have hread := uint64?_jsonOfUInt64 n
  simp only [jsonOfUInt64, count] at hread ⊢
  rw [nullable?, hread]
  · rfl
  · simp

theorem nullable?_ofOption (n : Option UInt64) :
    nullable? uint64? (ofOption jsonOfUInt64 n) = some n := by
  cases n with
  | none => rfl
  | some n => exact nullable?_jsonOfUInt64 n

end CoreBroker.Json
