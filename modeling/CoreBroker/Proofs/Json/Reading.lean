import CoreBroker.Json.Parser
import CoreBroker.Json.Printer
import Mathlib.Data.List.TakeDrop
set_option autoImplicit false

/-!
# Reading what was written

The compact text of a value is read back as that value, whatever its nesting, its integers and the
characters of its strings: `parse?_render`.  Numbers with a fraction are left out, since they are kept as
they were spelled, and so is what names no value.

A reader is always followed through a text that goes on, so that the statements compose: after the
characters of a part, the reader hands back that part and just the characters that follow.
-/

namespace CoreBroker.Json

/-! ## Numbers -/

/-- What may follow a value: nothing, or the end of a part of what it stands in. -/
def EndsValue (rest : List Char) : Prop :=
  rest = [] ∨ ∃ c t, rest = c :: t ∧ (c = ',' ∨ c = ']' ∨ c = '}')

theorem endsValue_cons {c : Char} (hc : c = ',' ∨ c = ']' ∨ c = '}') (t : List Char) :
    EndsValue (c :: t) := .inr ⟨c, t, rfl, hc⟩

theorem natOfDigits_toDigits (n : Nat) : natOfDigits (Nat.toDigits 10 n) = n :=
  Nat.ofDigitChars_ten_toDigits

theorem isDigit_of_mem {n : Nat} {c : Char} (hc : c ∈ Nat.toDigits 10 n) : c.isDigit = true :=
  Nat.isDigit_of_mem_toDigits (by decide) (by decide) hc

theorem toDigits_eq_zero_cons {n : Nat} {ds : List Char} (h : Nat.toDigits 10 n = '0' :: ds) :
    n = 0 ∧ ds = [] := by
  induction n using Nat.strongRecOn generalizing ds with
  | _ n ih =>
    rw [Nat.toDigits_eq_if (by decide)] at h
    split at h
    · obtain ⟨hzero, hds⟩ := List.cons_eq_cons.mp h
      exact ⟨Nat.digitChar_eq_zero.mp hzero, hds.symm⟩
    · rename_i hlarge
      cases hfront : Nat.toDigits 10 (n / 10) with
      | nil => exact absurd hfront Nat.toDigits_ne_nil
      | cons d front =>
        rw [hfront, List.cons_append] at h
        obtain ⟨rfl, -⟩ := List.cons_eq_cons.mp h
        have hdiv := (ih (n / 10) (by omega) hfront).1
        omega

theorem digitRun_append {ds rest : List Char} (hds : ∀ c ∈ ds, c.isDigit = true)
    (hrest : EndsValue rest) : digitRun (ds ++ rest) = (ds, rest) := by
  have hstop : rest.takeWhile Char.isDigit = [] ∧ rest.dropWhile Char.isDigit = rest := by
    rcases hrest with rfl | ⟨c, t, rfl, hc⟩
    · exact ⟨rfl, rfl⟩
    · have hnot : c.isDigit = false := by rcases hc with rfl | rfl | rfl <;> decide
      simp [hnot]
  rw [digitRun, List.span_eq_takeWhile_dropWhile, List.takeWhile_append_of_pos hds,
    List.dropWhile_append_of_pos hds, hstop.1, hstop.2, List.append_nil]

/-- The digits of a number are read without a fraction or an exponent. -/
theorem magnitude_toDigits (n : Nat) {rest : List Char} (hrest : EndsValue rest) :
    magnitude (Nat.toDigits 10 n ++ rest) = some ((Nat.toDigits 10 n, []), rest) := by
  have hwhole : wholePart (Nat.toDigits 10 n ++ rest) = some (Nat.toDigits 10 n, rest) := by
    unfold wholePart
    rw [digitRun_append (fun c hc => isDigit_of_mem hc) hrest]
    split
    · rename_i hnil
      exact absurd (congrArg Prod.fst hnil) Nat.toDigits_ne_nil
    · rename_i heq
      exact absurd (toDigits_eq_zero_cons (congrArg Prod.fst heq)).2 (by simp)
    · rename_i heq
      cases heq
      rfl
  have hfraction : fraction rest = some ([], rest) := by
    unfold fraction
    rcases hrest with rfl | ⟨c, t, rfl, rfl | rfl | rfl⟩ <;> rfl
  have hexponent : exponent rest = some ([], rest) := by
    unfold exponent
    rcases hrest with rfl | ⟨c, t, rfl, rfl | rfl | rfl⟩ <;> rfl
  simp only [magnitude, hwhole, hfraction, hexponent, bind, Option.bind, pure, List.append_nil]

theorem number_digits (i : Int) {rest : List Char} (hrest : EndsValue rest) :
    number (digits i ++ rest) = some (.integer i, rest) := by
  cases i with
  | ofNat n =>
    cases hdigits : Nat.toDigits 10 n with
    | nil => exact absurd hdigits Nat.toDigits_ne_nil
    | cons d ds =>
      have hd : d.isDigit = true := isDigit_of_mem (hdigits ▸ List.mem_cons_self)
      have hread := magnitude_toDigits n hrest
      have hvalue := natOfDigits_toDigits n
      rw [hdigits] at hread hvalue
      rw [digits, hdigits, List.cons_append] at *
      unfold number
      split
      · rename_i heq
        obtain ⟨rfl, -⟩ := List.cons_eq_cons.mp heq
        exact absurd hd (by decide)
      · rw [hread]
        simp only [hvalue]
        rfl
  | negSucc n =>
    have hread := magnitude_toDigits (n + 1) hrest
    have hvalue := natOfDigits_toDigits (n + 1)
    simp only [digits, List.cons_append, number, hread, hvalue, Nat.succ_ne_zero, if_false]
    rfl

/-! ## Strings -/

/-- The element that stands for a character in a written string: a control character without a letter of
its own is written by its number. -/
def elementOf (c : Char) : Element :=
  if c.val < 0x20 ∧ c ∉ ['\x08', '\x0c', '\n', '\r', '\t'] then .unit c.val.toNat else .plain c

theorem hexValue?_hexDigit {n : Nat} (h : n < 16) : hexValue? (hexDigit n) = some n := by
  revert n
  decide

theorem hexValue?_zero : hexValue? '0' = some 0 := by decide

theorem elements_letter {e c : Char} (he : escape? e = some c) (t : List Char) :
    elements ('\\' :: e :: t) = (elements t).map fun (es, rest) => (.plain c :: es, rest) := by
  have hu : e ≠ 'u' := by rintro rfl; simp [escape?] at he
  rw [elements.eq_4 _ _ (fun _ _ _ _ _ h => absurd h hu), he]
  cases elements t <;> rfl

theorem elements_plain {c : Char} (hquote : c ≠ '"') (hslash : c ≠ '\\') (hlarge : ¬ c.val < 0x20)
    (t : List Char) :
    elements (c :: t) = (elements t).map fun (es, rest) => (.plain c :: es, rest) := by
  rw [elements.eq_5 _ _ hquote (fun _ _ _ _ _ h => absurd h hslash)
    (fun _ _ h => absurd h hslash), if_neg hlarge]

/-- A control character is written by its number. -/
theorem elements_control {c : Char} (hsmall : c.val < 0x20) (t : List Char) :
    elements ('\\' :: 'u' :: '0' :: '0' :: hexDigit (c.val.toNat / 16) ::
        hexDigit (c.val.toNat % 16) :: t) =
      (elements t).map fun (es, rest) => (.unit c.val.toNat :: es, rest) := by
  have hlt : c.val.toNat < 32 := hsmall
  have hhex : hex4? '0' '0' (hexDigit (c.val.toNat / 16)) (hexDigit (c.val.toNat % 16)) =
      some c.val.toNat := by
    simp only [hex4?, hexValue?_zero, hexValue?_hexDigit (show c.val.toNat / 16 < 16 by omega),
      hexValue?_hexDigit (Nat.mod_lt c.val.toNat (by decide : 0 < 16)), bind, Option.bind, pure]
    exact congrArg some (by omega)
  rw [elements.eq_3, hhex]
  cases elements t <;> rfl

/-- After the characters that write one character comes what follows. -/
theorem elements_escaped (c : Char) (t : List Char) : elements (escaped c ++ t) =
    (elements t).map fun (es, rest) => (elementOf c :: es, rest) := by
  unfold escaped
  -- Seven characters have a letter of their own.
  iterate 7
    split
    · subst_vars
      exact elements_letter rfl t
  rename_i hquote hslash hb hf hn hr ht
  have hletters : c ∉ ['\x08', '\x0c', '\n', '\r', '\t'] := by simp [hb, hf, hn, hr, ht]
  split
  · rename_i hsmall
    rw [elementOf, if_pos ⟨hsmall, hletters⟩]
    exact elements_control hsmall t
  · rename_i hlarge
    rw [elementOf, if_neg fun h => hlarge h.1]
    exact elements_plain hquote hslash hlarge t

theorem elements_quoted (cs t : List Char) :
    elements (cs.flatMap escaped ++ '"' :: t) = some (cs.map elementOf, t) := by
  induction cs with
  | nil => rfl
  | cons c cs ih =>
    rw [List.flatMap_cons, List.append_assoc, elements_escaped, ih]
    rfl

/-- A unit that is no surrogate pairs with nothing and stands for its own character. -/
theorem join_unit {n : Nat} (hn : n < 0xD800) (es : List Element) :
    join (.unit n :: es) = (join es).map (Char.ofNat n :: ·) := by
  have hlead : isLead n = false := by rw [isLead, decide_eq_false (by omega), Bool.false_and]
  have htrail : isTrail n = false := by rw [isTrail, decide_eq_false (by omega), Bool.false_and]
  have hneither : ¬ (isLead n || isTrail n) = true := by simp [hlead, htrail]
  match es with
  | [] => rw [join.eq_4 _ _ (by simp), if_neg hneither]
  | .plain c :: es => rw [join.eq_4 _ _ (by simp), if_neg hneither]
  | .unit m :: es =>
    rw [join.eq_3, if_neg (by simp [hlead]), if_neg hneither]

theorem join_elements (cs : List Char) : join (cs.map elementOf) = some cs := by
  induction cs with
  | nil => rfl
  | cons c cs ih =>
    by_cases hunit : c.val < 0x20 ∧ c ∉ ['\x08', '\x0c', '\n', '\r', '\t']
    · have hlt : c.val.toNat < 32 := hunit.1
      have hchar : Char.ofNat c.val.toNat = c := Char.ofNat_toNat c
      rw [List.map_cons, show elementOf c = .unit c.val.toNat from if_pos hunit,
        join_unit (by omega), ih, Option.map_some, hchar]
    · rw [List.map_cons, show elementOf c = .plain c from if_neg hunit, join, ih]
      rfl

theorem string_quoted (s : String) (t : List Char) :
    string (s.toList.flatMap escaped ++ '"' :: t) = some (some s, t) := by
  simp only [string, elements_quoted, Option.map_some, join_elements, String.ofList_toList]

/-! ## Values -/

mutual
/-- The value holds no number with a fraction and no part that names no value. -/
def isPlain : Json → Bool
  | .decimal _ | .unreadable => false
  | .list items => arePlain items
  | .object fields => arePlainFields fields
  | .null | .bool _ | .integer _ | .text _ => true

/-- All items are plain. -/
def arePlain : List Json → Bool
  | [] => true
  | j :: rest => isPlain j && arePlain rest

/-- The values of all fields are plain. -/
def arePlainFields : List (String × Json) → Bool
  | [] => true
  | (_, j) :: rest => isPlain j && arePlainFields rest
end

theorem skipSpace_cons {c : Char} (hc : isSpace c = false) (t : List Char) :
    skipSpace (c :: t) = c :: t := by
  simp [skipSpace, hc]

/-- The number of a character begins no other value and is no blank. -/
theorem isSpace_of_begins {c : Char} (hc : c.isDigit = true ∨ c = '-') : isSpace c = false := by
  rcases hc with hdigit | rfl
  · have hne : ∀ {d : Char}, d.isDigit = false → (c == d) = false := fun hd =>
      beq_false_of_ne fun heq => Bool.false_ne_true (hd.symm.trans (heq ▸ hdigit))
    rw [isSpace, hne rfl, hne rfl, hne rfl, hne rfl]
    rfl
  · rfl

/-- The first character of an integer is a digit or a minus sign. -/
theorem digits_cons (i : Int) : ∃ c t, digits i = c :: t ∧ (c.isDigit = true ∨ c = '-') := by
  cases i with
  | ofNat n =>
    cases hdigits : Nat.toDigits 10 n with
    | nil => exact absurd hdigits Nat.toDigits_ne_nil
    | cons d ds => exact ⟨d, ds, hdigits, .inl (isDigit_of_mem (hdigits ▸ List.mem_cons_self))⟩
  | negSucc n => exact ⟨'-', _, rfl, .inr rfl⟩

/-- The written form of a value begins neither with a blank nor with a closing bracket. -/
theorem chars_cons {j : Json} (hj : j.isPlain = true) :
    ∃ c t, chars j = c :: t ∧ isSpace c = false ∧ c ≠ ']' := by
  match j with
  | .null | .bool true | .bool false | .text _ | .list _ | .object _ =>
    exact ⟨_, _, by rw [chars] <;> rfl, by decide, by decide⟩
  | .integer i =>
    obtain ⟨c, t, hchars, hc⟩ := digits_cons i
    refine ⟨c, t, by rw [chars]; exact hchars, isSpace_of_begins hc, ?_⟩
    rintro rfl
    exact absurd hc (by decide)
  | .decimal _ | .unreadable => simp [isPlain] at hj

theorem value_digits (fuel : Nat) (i : Int) {rest : List Char} (hrest : EndsValue rest) :
    value (fuel + 1) (digits i ++ rest) = some (.integer i, rest) := by
  have hnumber := number_digits i hrest
  obtain ⟨c, t, hchars, hc⟩ := digits_cons i
  rw [hchars, List.cons_append] at hnumber ⊢
  rw [value, skipSpace_cons (isSpace_of_begins hc)]
  split <;> first | exact hnumber | skip
  all_goals
    rename_i heq
    obtain ⟨rfl, -⟩ := List.cons_eq_cons.mp heq
    exact absurd hc (by decide)

/-- Fields that were all read make an object. -/
theorem ofFields_some (fields : List (String × Json)) :
    ofFields (fields.map fun f => (some f.1, f.2)) = .object fields := by
  have hnamed : (fields.map fun f => (some f.1, f.2)).mapM
      (fun f : Option String × Json => f.1.map (·, f.2)) = some fields := by
    induction fields with
    | nil => rfl
    | cons f rest ih =>
      rw [List.map_cons, List.mapM_cons, ih]
      rfl
  unfold ofFields
  split
  · rename_i named hread
    rw [Option.some.inj (hread.symm.trans hnamed)]
  · rename_i hread
    exact absurd (hread.symm.trans hnamed) (by simp)

theorem itemChars_cons {j : Json} (hj : j.isPlain = true) (rest : List Json) :
    ∃ c t, itemChars (j :: rest) = c :: t ∧ isSpace c = false ∧ c ≠ ']' := by
  obtain ⟨c, t, hchars, hc⟩ := chars_cons hj
  cases rest with
  | nil => exact ⟨c, _, by rw [itemChars, hchars]; rfl, hc⟩
  | cons next rest => exact ⟨c, _, by rw [itemChars, hchars]; rfl, hc⟩

theorem fieldChars_cons (name : String) (j : Json) (rest : List (String × Json)) :
    ∃ t, fieldChars ((name, j) :: rest) = '"' :: t := by
  cases rest with
  | nil => exact ⟨_, by rw [fieldChars, quoted]; rfl⟩
  | cons next rest => exact ⟨_, by rw [fieldChars, quoted]; rfl⟩

mutual
/-- A written value is read back, and what follows it is handed back. -/
theorem value_chars : ∀ (j : Json) (fuel : Nat) (rest : List Char), j.isPlain = true →
    (chars j).length ≤ fuel → EndsValue rest → value fuel (chars j ++ rest) = some (j, rest)
  | j, 0, _, hj, hfuel, _ => by
    obtain ⟨c, t, hchars, -⟩ := chars_cons hj
    simp [hchars] at hfuel
  | .null, fuel + 1, rest, _, _, _ => by rw [chars, value]; rfl
  | .bool true, fuel + 1, rest, _, _, _ => by rw [chars, value]; rfl
  | .bool false, fuel + 1, rest, _, _, _ => by rw [chars, value]; rfl
  | .integer i, fuel + 1, rest, _, _, hrest => by
    rw [chars]
    exact value_digits fuel i hrest
  | .text s, fuel + 1, rest, _, _, _ => by
    have hstring := string_quoted s rest
    rw [chars, quoted, value, List.cons_append, List.cons_append, List.append_assoc,
      skipSpace_cons rfl]
    simp only [List.singleton_append, hstring]
    rfl
  | .list [], fuel + 1, rest, _, _, _ => by rw [chars, itemChars, value]; rfl
  | .list (j :: items), fuel + 1, rest, hplain, hfuel, _ => by
    rw [isPlain] at hplain
    rw [chars, List.length_cons] at hfuel
    have hitems := items_chars j items fuel rest hplain (by omega)
    have hj : j.isPlain = true := by
      rw [arePlain, Bool.and_eq_true] at hplain
      exact hplain.1
    obtain ⟨c, t, hchars, hspace, hbracket⟩ := itemChars_cons hj items
    rw [hchars, List.cons_append] at hitems
    rw [chars, value, hchars, List.cons_append, List.cons_append, skipSpace_cons rfl]
    simp only [skipSpace_cons hspace]
    split
    · rename_i heq
      exact absurd (List.cons_eq_cons.mp heq).1 hbracket
    · rw [hitems]
      rfl
  | .object [], fuel + 1, rest, _, _, _ => by rw [chars, fieldChars, value]; rfl
  | .object ((name, j) :: fields), fuel + 1, rest, hplain, hfuel, _ => by
    rw [isPlain] at hplain
    rw [chars, List.length_cons] at hfuel
    have hfields := fields_chars name j fields fuel rest hplain (by omega)
    obtain ⟨t, hchars⟩ := fieldChars_cons name j fields
    rw [hchars, List.cons_append] at hfields
    rw [chars, value, hchars, List.cons_append, List.cons_append, skipSpace_cons rfl]
    simp only [skipSpace_cons (show isSpace '"' = false from rfl)]
    split
    · rename_i heq
      exact absurd (List.cons_eq_cons.mp heq).1 (by decide)
    · rw [hfields]
      exact congrArg (fun j => some (j, rest)) (ofFields_some ((name, j) :: fields))
  | .decimal _, _, _, hj, _, _ => by simp [isPlain] at hj
  | .unreadable, _, _, hj, _, _ => by simp [isPlain] at hj

theorem items_chars : ∀ (j : Json) (js : List Json) (fuel : Nat) (rest : List Char),
    arePlain (j :: js) = true → (itemChars (j :: js)).length ≤ fuel →
      items fuel (itemChars (j :: js) ++ rest) = some (j :: js, rest)
  | j, js, 0, _, hplain, hfuel => by
    rw [arePlain, Bool.and_eq_true] at hplain
    obtain ⟨c, t, hchars, -⟩ := itemChars_cons hplain.1 js
    simp [hchars] at hfuel
  | j, [], fuel + 1, rest, hplain, hfuel => by
    rw [arePlain, Bool.and_eq_true] at hplain
    rw [itemChars, List.length_append, List.length_singleton] at hfuel
    have hvalue := value_chars j fuel (']' :: rest) hplain.1 (by omega) (endsValue_cons (by simp) _)
    rw [itemChars, items, List.append_assoc, List.singleton_append, hvalue]
    simp only [skipSpace_cons (show isSpace ']' = false from rfl)]
  | j, next :: js, fuel + 1, rest, hplain, hfuel => by
    rw [arePlain, Bool.and_eq_true] at hplain
    rw [itemChars, List.length_append, List.length_cons] at hfuel
    have hvalue := value_chars j fuel (',' :: (itemChars (next :: js) ++ rest)) hplain.1 (by omega)
      (endsValue_cons (by simp) _)
    have hitems := items_chars next js fuel rest hplain.2 (by omega)
    rw [itemChars, items, List.append_assoc, List.cons_append, hvalue]
    simp only [skipSpace_cons (show isSpace ',' = false from rfl), hitems, Option.map_some]

theorem fields_chars : ∀ (name : String) (j : Json) (fs : List (String × Json)) (fuel : Nat)
    (rest : List Char), arePlainFields ((name, j) :: fs) = true →
      (fieldChars ((name, j) :: fs)).length ≤ fuel →
        fields fuel (fieldChars ((name, j) :: fs) ++ rest) =
          some (((name, j) :: fs).map fun f => (some f.1, f.2), rest)
  | name, j, fs, 0, _, _, hfuel => by
    obtain ⟨t, hchars⟩ := fieldChars_cons name j fs
    simp [hchars] at hfuel
  | name, j, [], fuel + 1, rest, hplain, hfuel => by
    rw [arePlainFields, Bool.and_eq_true] at hplain
    simp only [fieldChars, quoted, List.length_append, List.length_cons] at hfuel
    have hvalue := value_chars j fuel ('}' :: rest) hplain.1 (by omega) (endsValue_cons (by simp) _)
    have hname := string_quoted name (':' :: (chars j ++ '}' :: rest))
    rw [fieldChars, quoted, fields]
    simp only [List.cons_append, List.append_assoc, List.nil_append,
      skipSpace_cons (show isSpace '"' = false from rfl), hname,
      skipSpace_cons (show isSpace ':' = false from rfl), hvalue,
      skipSpace_cons (show isSpace '}' = false from rfl), List.map_cons, List.map_nil]
  | name, j, (name', j') :: fs, fuel + 1, rest, hplain, hfuel => by
    rw [arePlainFields, Bool.and_eq_true] at hplain
    rw [fieldChars] at hfuel
    simp only [quoted, List.length_append, List.length_cons] at hfuel
    have hvalue := value_chars j fuel (',' :: (fieldChars ((name', j') :: fs) ++ rest)) hplain.1
      (by omega) (endsValue_cons (by simp) _)
    have hfields := fields_chars name' j' fs fuel rest hplain.2 (by omega)
    have hname := string_quoted name
      (':' :: (chars j ++ ',' :: (fieldChars ((name', j') :: fs) ++ rest)))
    rw [fieldChars, quoted, fields]
    simp only [List.cons_append, List.append_assoc, List.nil_append,
      skipSpace_cons (show isSpace '"' = false from rfl), hname,
      skipSpace_cons (show isSpace ':' = false from rfl), hvalue,
      skipSpace_cons (show isSpace ',' = false from rfl), hfields, Option.map_some, List.map_cons]
end

theorem parse?_render {j : Json} (hj : j.isPlain = true) : parse? j.render = some j := by
  have hvalue := value_chars j (j.chars.length + 1) [] hj (Nat.le_succ _) (.inl rfl)
  rw [List.append_nil] at hvalue
  rw [parse?, render, String.toList_ofList, hvalue]
  rfl

end CoreBroker.Json
