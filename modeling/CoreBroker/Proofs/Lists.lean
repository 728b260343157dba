import Mathlib.Algebra.Ring.Nat
import Mathlib.Data.List.Nodup
set_option autoImplicit false

/-!
# Lists with one entry changed

What is seen of a list through a map when one entry of it is changed.
-/

namespace CoreBroker

variable {α β : Type}

/-- Changing an entry in a way that the map does not show leaves what it shows. -/
theorem map_modify_eq_self {entries : List α} {i : Nat} {f : α → α} {g : α → β}
    (hsame : ∀ a, entries[i]? = some a → g (f a) = g a) :
    (entries.modify i f).map g = entries.map g := by
  refine List.ext_getElem? fun k => ?_
  rw [List.getElem?_map, List.getElem?_map]
  by_cases hik : i = k
  · subst hik
    rw [List.getElem?_modify_eq]
    cases hentry : entries[i]? with
    | none => rfl
    | some a => exact congrArg some (hsame a hentry)
  · rw [List.getElem?_modify_ne _ _ hik]

/-- Replacing an entry by one that the map shows alike leaves what it shows. -/
theorem map_set_eq_self {entries : List α} {i : Nat} {a b : α} (hentry : entries[i]? = some a)
    {g : α → β} (hsame : g b = g a) : (entries.set i b).map g = entries.map g := by
  refine List.ext_getElem? fun k => ?_
  rw [List.getElem?_map, List.getElem?_map]
  by_cases hik : i = k
  · subst hik
    rw [List.getElem?_set_self (List.getElem?_eq_some_iff.mp hentry).1, hentry, Option.map_some,
      Option.map_some, hsame]
  · rw [List.getElem?_set_ne hik]

/-- Changing an entry replaces what the map shows of it. -/
theorem map_modify_eq_set {entries : List α} {i : Nat} {a : α} (hentry : entries[i]? = some a)
    (f : α → α) (g : α → β) : (entries.modify i f).map g = (entries.map g).set i (g (f a)) := by
  refine List.ext_getElem? fun k => ?_
  by_cases hik : i = k
  · subst hik
    have hlt : i < entries.length := (List.getElem?_eq_some_iff.mp hentry).1
    rw [List.getElem?_map, List.getElem?_modify_eq, hentry, List.getElem?_set_self (by simpa using hlt)]
    rfl
  · rw [List.getElem?_map, List.getElem?_modify_ne _ _ hik, List.getElem?_set_ne hik,
      List.getElem?_map]

theorem count_cons_toNat [DecidableEq α] (a b : α) (entries : List α) :
    (a :: entries).count b = entries.count b + (decide (a = b)).toNat := by
  rw [List.count_cons]
  by_cases hab : a = b
  · simp [hab]
  · simp [hab]

theorem countP_cons_toNat (p : α → Bool) (a : α) (entries : List α) :
    (a :: entries).countP p = entries.countP p + (p a).toNat := by
  rw [List.countP_cons]
  cases p a <;> rfl

/-- Replacing an entry replaces its share in a sum. -/
theorem sum_map_set {entries : List α} {i : Nat} {a : α} (hentry : entries[i]? = some a) (b : α)
    (f : α → Nat) : ((entries.set i b).map f).sum + f a = (entries.map f).sum + f b := by
  induction entries generalizing i with
  | nil => exact absurd hentry (by simp)
  | cons e rest ih =>
    cases i with
    | zero =>
      have he : e = a := by simpa using hentry
      rw [List.set_cons_zero, List.map_cons, List.map_cons, List.sum_cons, List.sum_cons, he]
      omega
    | succ i =>
      have htail := ih (i := i) (by simpa using hentry)
      rw [List.set_cons_succ, List.map_cons, List.map_cons, List.sum_cons, List.sum_cons]
      omega

/-- A sum does not change when nothing changes that it shows. -/
theorem sum_map_of_bare {entries entries' : List α} {bare : α → α}
    (hsame : entries'.map bare = entries.map bare) {f : α → Nat} (hf : ∀ a, f (bare a) = f a) :
    (entries'.map f).sum = (entries.map f).sum := by
  have hbare : ∀ l : List α, l.map f = (l.map bare).map f := by
    intro l
    rw [List.map_map]
    exact List.map_congr_left fun a _ => (hf a).symm
  rw [hbare, hsame, ← hbare]

/-- Changing every entry changes a count by what it changes of each share. -/
theorem countP_map_balance (f : α → β) (p : α → Bool) (p' : β → Bool) (loss gain : α → Bool) :
    ∀ {entries : List α},
      (∀ a ∈ entries, (p' (f a)).toNat + (loss a).toNat = (p a).toNat + (gain a).toNat) →
        (entries.map f).countP p' + entries.countP loss = entries.countP p + entries.countP gain := by
  intro entries
  induction entries with
  | nil => exact fun _ => rfl
  | cons a entries ih =>
    intro hshares
    have hfirst := hshares a List.mem_cons_self
    have hrest := ih fun b hb => hshares b (List.mem_cons_of_mem a hb)
    simp only [List.map_cons, countP_cons_toNat]
    omega

theorem countP_add {entries : List α} {p q r : α → Bool}
    (hshares : ∀ a ∈ entries, (q a).toNat + (r a).toNat = (p a).toNat) :
    entries.countP q + entries.countP r = entries.countP p := by
  simpa using countP_map_balance id p q r (fun _ => false) hshares

theorem sum_map_toNat (p : α → Bool) (entries : List α) :
    (entries.map fun a => (p a).toNat).sum = entries.countP p := by
  induction entries with
  | nil => rfl
  | cons a rest ih => rw [List.map_cons, List.sum_cons, ih, countP_cons_toNat, Nat.add_comm]

/-- Where at most one entry counts, there is at most one that does. -/
theorem eq_of_countP_le_one {entries : List α} {p : α → Bool} (hle : entries.countP p ≤ 1) {a b : α}
    (ha : a ∈ entries) (hpa : p a = true) (hb : b ∈ entries) (hpb : p b = true) : a = b := by
  induction entries with
  | nil => exact absurd ha List.not_mem_nil
  | cons e rest ih =>
    rw [countP_cons_toNat] at hle
    -- If the head is one of them, no other counts.
    have hhead : p e = true → ∀ c ∈ rest, ¬ p c = true := fun hpe c hc hpc => by
      have hpos := List.countP_pos_iff.mpr ⟨c, hc, hpc⟩
      rw [hpe, Bool.toNat_true] at hle
      omega
    rcases List.mem_cons.mp ha with rfl | harest
    · rcases List.mem_cons.mp hb with rfl | hbrest
      · rfl
      · exact absurd hpb (hhead hpa b hbrest)
    · rcases List.mem_cons.mp hb with rfl | hbrest
      · exact absurd hpa (hhead hpb a harest)
      · exact ih (Nat.le_trans (Nat.le_add_right _ _) hle) harest hbrest

/-- Where a sum is at most one, at most one entry has a share in it. -/
theorem index_eq_of_sum_le_one {entries : List α} {f : α → Nat} (hle : (entries.map f).sum ≤ 1)
    {i k : Nat} {a b : α} (hi : entries[i]? = some a) (ha : 0 < f a) (hk : entries[k]? = some b)
    (hb : 0 < f b) : i = k := by
  induction entries generalizing i k with
  | nil => exact absurd hi (by simp)
  | cons e rest ih =>
    rw [List.map_cons, List.sum_cons] at hle
    have hshare : ∀ {n : Nat} {c : α}, rest[n]? = some c → 0 < f c → 0 < (rest.map f).sum :=
      fun hc hpos => List.sum_pos_iff_exists_pos_nat.mpr
        ⟨_, List.mem_map_of_mem (List.mem_of_getElem? hc), hpos⟩
    cases i with
    | zero =>
      have he : e = a := by simpa using hi
      cases k with
      | zero => rfl
      | succ k =>
        have hrest : 0 < (rest.map f).sum := hshare (by simpa using hk) hb
        rw [he] at hle
        omega
    | succ i =>
      have hrest : 0 < (rest.map f).sum := hshare (by simpa using hi) ha
      cases k with
      | zero =>
        have he : e = b := by simpa using hk
        rw [he] at hle
        omega
      | succ k =>
        exact congrArg _ (ih (by omega) (by simpa using hi) (by simpa using hk))

/-! ## Entries found by a key -/

section Key

variable {κ : Type} [BEq κ] [LawfulBEq κ] {entries : List α} {key : α → κ} {k : κ}

/-- With one entry to a key, an entry is found by its key. -/
theorem find?_key (hkeys : (entries.map key).Nodup) {a : α} (ha : a ∈ entries) :
    entries.find? (fun e => key e == key a) = some a := by
  obtain ⟨b, hfind⟩ : ∃ b, entries.find? (fun e => key e == key a) = some b := by
    rw [← Option.isSome_iff_exists, List.find?_isSome]
    exact ⟨a, ha, beq_self_eq_true _⟩
  have hfound : (key b == key a) = true := by simpa using List.find?_some hfind
  have hkey : key b = key a := eq_of_beq hfound
  rw [hfind, List.inj_on_of_nodup_map hkeys (List.mem_of_find?_eq_some hfind) ha hkey]

/-- Replacing the entry with a key replaces its share in a count. -/
theorem countP_replace (hkeys : (entries.map key).Nodup) {a : α} (ha : a ∈ entries)
    (hkey : key a = k) (f : α → α) (p : α → Bool) :
    (entries.map fun e => if key e == k then f e else e).countP p + (p a).toNat =
      entries.countP p + (p (f a)).toNat := by
  induction entries with
  | nil => exact absurd ha List.not_mem_nil
  | cons e rest ih =>
    rw [List.map_cons, List.nodup_cons] at hkeys
    rw [List.map_cons, List.countP_cons, List.countP_cons]
    rcases List.mem_cons.mp ha with rfl | hrest
    · have hothers : (rest.map fun e => if key e == k then f e else e) = rest := by
        refine (List.map_congr_left fun e he => ?_).trans (List.map_id _)
        have hne : ¬ (key e = k) := fun h =>
          hkeys.1 (hkey ▸ h ▸ List.mem_map_of_mem he)
        simp [hne]
      rw [hothers, hkey]
      simp only [beq_self_eq_true, if_true]
      cases p a <;> cases p (f a) <;> simp
    · have hne : ¬ (key e = k) := fun h =>
        hkeys.1 (h ▸ hkey ▸ List.mem_map_of_mem hrest)
      have htail := ih hkeys.2 hrest
      simp only [beq_iff_eq, hne, if_false] at htail ⊢
      omega

/-- The entry with a key stands among the others. -/
theorem perm_cons_remove (hkeys : (entries.map key).Nodup) {a : α} (ha : a ∈ entries) :
    entries.Perm (a :: entries.filter fun e => key e != key a) := by
  induction entries with
  | nil => exact absurd ha List.not_mem_nil
  | cons e rest ih =>
    rw [List.map_cons, List.nodup_cons] at hkeys
    rcases List.mem_cons.mp ha with rfl | hrest
    · have hothers : (rest.filter fun e => key e != key a) = rest := by
        refine List.filter_eq_self.mpr fun e he => ?_
        exact bne_iff_ne.mpr fun h => hkeys.1 (h ▸ List.mem_map_of_mem he)
      rw [List.filter_cons_of_neg (by simp), hothers]
    · have hne : (key e != key a) = true := bne_iff_ne.mpr fun h =>
        hkeys.1 (h ▸ List.mem_map_of_mem hrest)
      have hkept : ((e :: rest).filter fun e => key e != key a) =
          e :: rest.filter fun e => key e != key a := by
        simp only [List.filter_cons, hne, if_true]
      rw [hkept]
      exact ((ih hkeys.2 hrest).cons e).trans (List.Perm.swap a e _)

/-- An entry that replaces the one with its key stands among the others. -/
theorem perm_cons_replace (hkeys : (entries.map key).Nodup) {a : α} (ha : a ∈ entries) (b : α) :
    (entries.map fun e => if key e == key a then b else e).Perm
      (b :: entries.filter fun e => key e != key a) := by
  have hothers : ((entries.filter fun e => key e != key a).map fun e =>
      if key e == key a then b else e) = entries.filter fun e => key e != key a := by
    refine (List.map_congr_left fun e he => ?_).trans (List.map_id _)
    have hne : ¬ (key e = key a) := bne_iff_ne.mp (List.mem_filter.mp he).2
    simp [hne]
  have hmap := (perm_cons_remove hkeys ha).map fun e => if key e == key a then b else e
  rwa [List.map_cons, hothers, beq_self_eq_true, if_pos rfl] at hmap

theorem countP_remove (hkeys : (entries.map key).Nodup) {a : α} (ha : a ∈ entries)
    (hkey : key a = k) (p : α → Bool) :
    (entries.filter fun e => key e != k).countP p + (p a).toNat = entries.countP p := by
  subst hkey
  rw [(perm_cons_remove hkeys ha).countP_eq p, countP_cons_toNat]

/-- As many entries have one of some keys as there are such keys. -/
theorem countP_contains_key (hkeys : (entries.map key).Nodup) {keys : List κ} (hnodup : keys.Nodup)
    (hthere : ∀ k ∈ keys, ∃ e ∈ entries, key e = k) :
    entries.countP (fun e => keys.contains (key e)) = keys.length := by
  have hperm : ((entries.map key).filter keys.contains).Perm keys := by
    refine (List.perm_ext_iff_of_nodup (hkeys.filter _) hnodup).mpr fun k => ?_
    simp only [List.mem_filter, List.mem_map, List.contains_iff_mem]
    exact ⟨fun h => h.2, fun h => ⟨hthere k h, h⟩⟩
  rw [← hperm.length_eq, ← List.countP_eq_length_filter, List.countP_map]
  rfl

/-- At most the entry with the key counts. -/
theorem countP_key (hkeys : (entries.map key).Nodup) {a : α} (ha : a ∈ entries) (p : α → Bool) :
    entries.countP (fun e => key e == key a && p e) = (p a).toNat := by
  have hrest : (entries.filter fun e => key e != key a).countP
      (fun e => key e == key a && p e) = 0 := by
    refine List.countP_eq_zero.mpr fun e he h => ?_
    have hne := (List.mem_filter.mp he).2
    simp only [Bool.and_eq_true, beq_iff_eq] at h
    simp [h.1] at hne
  have hremove := countP_remove hkeys ha rfl fun e => key e == key a && p e
  rw [hrest, beq_self_eq_true, Bool.true_and, Nat.zero_add] at hremove
  exact hremove.symm

end Key

end CoreBroker
