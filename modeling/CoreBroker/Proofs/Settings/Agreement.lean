import CoreBroker.Proofs.Json.RoundTrip
import CoreBroker.Settings.Variables
set_option autoImplicit false

/-!
# Variables and data give the same settings

Six of the settings of a broker can be given by variables, and all of them as data.  Where the two spell
the same values they give the same settings, or the same objection to them; and every broker that is not
objected to can be had from variables alone.
-/

namespace CoreBroker

/-! ## Spellings -/

namespace Text

theorem trimEnd_append {s after : List Char} (hs : ∀ c ∈ s, isBlank c = false)
    (hafter : ∀ c ∈ after, isBlank c = true) : trimEnd (s ++ after) = s := by
  have hreverse : ∀ c ∈ after.reverse, isBlank c = true := fun c hc =>
    hafter c (List.mem_reverse.mp hc)
  have hkept : s.reverse.dropWhile isBlank = s.reverse := by
    cases hrev : s.reverse with
    | nil => rfl
    | cons c t =>
      have hc : c ∈ s := List.mem_reverse.mp (hrev ▸ List.mem_cons_self)
      rw [List.dropWhile_cons_of_neg (by simp [hs c hc])]
  rw [trimEnd, List.reverse_append, List.dropWhile_append_of_pos hreverse, hkept, List.reverse_reverse]

/-- White space around a text without any is trimmed. -/
theorem trim_padded {before s after : List Char} (hbefore : ∀ c ∈ before, isBlank c = true)
    (hs : ∀ c ∈ s, isBlank c = false) (hnonempty : s ≠ []) (hafter : ∀ c ∈ after, isBlank c = true) :
    trim (before ++ s ++ after) = s := by
  cases s with
  | nil => exact absurd rfl hnonempty
  | cons c t =>
    have hc := hs c List.mem_cons_self
    rw [trim, List.append_assoc, List.dropWhile_append_of_pos hbefore, List.cons_append,
      List.dropWhile_cons_of_neg (by simp [hc]), ← List.cons_append]
    exact trimEnd_append hs hafter

theorem isBlank_of_isDigit {c : Char} (hc : c.isDigit = true) : isBlank c = false := by
  have hrange : 48 ≤ c.val.toNat ∧ c.val.toNat ≤ 57 := by
    simpa [Char.isDigit, UInt32.le_iff_toNat_le] using hc
  simp only [isBlank, Bool.or_eq_false_iff, Bool.and_eq_false_iff, decide_eq_false_iff_not,
    beq_eq_false_iff_ne]
  omega

/-- The text is a truth value. -/
def SpellsBool (s : List Char) (b : Bool) : Prop := s = (if b then "true" else "false").toList

/-- The text is a number: decimal digits that stand for it, with zeros in front or without, and with a
plus sign in front of them or without. -/
def SpellsNumber (s : List Char) (n : UInt64) : Prop :=
  ∃ ds, ds ≠ [] ∧ (∀ c ∈ ds, c.isDigit = true) ∧ Nat.ofDigitChars 10 ds 0 = n.toNat ∧
    (s = ds ∨ s = '+' :: ds)

theorem le_ofDigitChars (ds : List Char) (n : Nat) : n ≤ Nat.ofDigitChars 10 ds n := by
  rw [Nat.ofDigitChars_eq_ofDigitChars_zero]
  have hpos : 1 ≤ 10 ^ ds.length := Nat.one_le_pow _ _ (by decide)
  exact Nat.le_add_right_of_le (Nat.le_mul_of_pos_left n hpos)

/-- Digits are read to the end as long as the number they stand for is within the limit. -/
theorem appendDigits_eq {limit n : Nat} {ds : List Char} (hds : ∀ c ∈ ds, c.isDigit = true)
    (hle : Nat.ofDigitChars 10 ds n ≤ limit) :
    appendDigits limit n ds = .ok (Nat.ofDigitChars 10 ds n) := by
  induction ds generalizing n with
  | nil => rfl
  | cons c ds ih =>
    obtain ⟨hc, hds⟩ := List.forall_mem_cons.mp hds
    have hstep : Nat.ofDigitChars 10 (c :: ds) n =
        Nat.ofDigitChars 10 ds (10 * n + (c.val.toNat - '0'.val.toNat)) := rfl
    rw [hstep] at hle ⊢
    have hfits := Nat.le_trans (le_ofDigitChars ds _) hle
    simp only [appendDigits, digit?, hc, if_true]
    rw [if_neg (Nat.not_lt.mpr hfits), ih hds hle]

end Text

namespace BrokerSettings

open Text

theorem readBool_of_spells {s : List Char} {b : Bool} (hs : SpellsBool s b) : readBool s = .ok b := by
  subst hs
  cases b <;> rfl

theorem readUInt64_of_spells {s : List Char} {n : UInt64} (hs : SpellsNumber s n) :
    readUInt64 s = .ok n := by
  obtain ⟨ds, hnonempty, hds, hvalue, hs⟩ := hs
  have hle : Nat.ofDigitChars 10 ds 0 ≤ UInt64.size - 1 := by
    rw [hvalue]
    exact Nat.le_sub_one_of_lt n.toNat_lt
  have hread := appendDigits_eq hds hle
  have hunsigned : unsigned? (UInt64.size - 1) s = .ok n.toNat := by
    rw [hvalue] at hread
    cases ds with
    | nil => exact absurd rfl hnonempty
    | cons d ds =>
      have hd : d ≠ '+' := by
        rintro rfl
        exact absurd (hds '+' List.mem_cons_self) (by decide)
      rcases hs with rfl | rfl
      · rw [unsigned?]
        · exact hread
        all_goals simp [hd]
      · rw [unsigned?]
        · exact hread
        all_goals simp
  rw [readUInt64, hunsigned]
  simp

/-! ## Some of the settings -/

/-- Values for some of the settings of a broker that variables can give. -/
structure Overrides where
  remoteEnabled : Option Bool := none
  remoteDelay : Option UInt64 := none
  localRetryDelay : Option UInt64 := none
  remoteRetryDelay : Option UInt64 := none
  slack : Option UInt64 := none
  remoteServesLocal : Option Bool := none
  deriving DecidableEq, Repr

namespace Overrides

/-- The default settings with these values in their place. -/
def settings (o : Overrides) : BrokerSettings where
  localSide := { remoteDelay := o.remoteDelay
                 retryDelay := o.localRetryDelay.getD defaultRetryDelay }
  remoteSide := { servesLocal := o.remoteServesLocal.getD false
                  slack := o.slack.getD defaultSlack
                  retryDelay := o.remoteRetryDelay.getD defaultRetryDelay }
  remoteEnabled := o.remoteEnabled.getD false

end Overrides

/-- A variable is set to a text that spells the value, with white space around it, or is not set where
there is no value. -/
def IsSetTo {α : Type} (lookup : String → Option String) (spells : List Char → α → Prop)
    (name : String) : Option α → Prop
  | none => lookup (variableStem ++ name) = none
  | some a => ∃ before s after,
    lookup (variableStem ++ name) = some (String.ofList (before ++ s ++ after)) ∧
      (∀ c ∈ before, isBlank c = true) ∧ spells s a ∧ ∀ c ∈ after, isBlank c = true

namespace Overrides

/-- The variables spell the values; a variable is not set where there is none. -/
structure SpelledBy (o : Overrides) (lookup : String → Option String) : Prop where
  remoteEnabled : IsSetTo lookup SpellsBool "ENABLE_REMOTE" o.remoteEnabled
  remoteDelay : IsSetTo lookup SpellsNumber "REMOTE_DELAY_MS" o.remoteDelay
  localRetryDelay : IsSetTo lookup SpellsNumber "LOCAL_RETRY_DELAY_MS" o.localRetryDelay
  remoteRetryDelay : IsSetTo lookup SpellsNumber "REMOTE_RETRY_DELAY_MS" o.remoteRetryDelay
  slack : IsSetTo lookup SpellsNumber "OBTAINMENT_SLACK" o.slack
  remoteServesLocal : IsSetTo lookup SpellsBool "REMOTE_FULFILLS_LOCAL" o.remoteServesLocal

/-- The fields of the local side that have a value. -/
def localValues (o : Overrides) : List (Option Json) :=
  [none, o.remoteDelay.map jsonOfUInt64, o.localRetryDelay.map jsonOfUInt64]

/-- The fields of the remote side that have a value. -/
def remoteValues (o : Overrides) : List (Option Json) :=
  [o.remoteServesLocal.map .bool, o.slack.map jsonOfUInt64, o.remoteRetryDelay.map jsonOfUInt64]

end Overrides

/-- The value is a section of a record with the fields that have a value; it may be left out if there is
none. -/
def IsSection (names : List String) (values : List (Option Json)) : Option Json → Prop
  | none => ∀ value ∈ values, value = none
  | some j => Json.HasFields names values j

namespace Overrides

/-- The data text gives the values, field by field and in any order; a field is left out where there is no
value. -/
def WrittenIn (o : Overrides) (text : String) : Prop :=
  ∃ j localSide remoteSide, Json.parse? text = some j ∧
    Json.HasFields BrokerSettings.fieldNames
      [localSide, remoteSide, o.remoteEnabled.map .bool] j ∧
    IsSection DedicatedSettings.fieldNames o.localValues localSide ∧
    IsSection SpeculativeSettings.fieldNames o.remoteValues remoteSide

end Overrides

/-! ## Reading variables -/

theorem SpellsBool.bare {s : List Char} {b : Bool} (hs : SpellsBool s b) :
    s ≠ [] ∧ ∀ c ∈ s, isBlank c = false := by
  subst hs
  cases b <;> simp [isBlank]

theorem SpellsNumber.bare {s : List Char} {n : UInt64} (hs : SpellsNumber s n) :
    s ≠ [] ∧ ∀ c ∈ s, isBlank c = false := by
  obtain ⟨ds, hnonempty, hds, -, rfl | rfl⟩ := hs
  · exact ⟨hnonempty, fun c hc => isBlank_of_isDigit (hds c hc)⟩
  · refine ⟨by simp, fun c hc => ?_⟩
    rcases List.mem_cons.mp hc with rfl | hc
    · decide
    · exact isBlank_of_isDigit (hds c hc)

theorem readVariable_of_isSetTo {α : Type} {lookup : String → Option String}
    {spells : List Char → α → Prop} {read : List Char → Except String α}
    (hread : ∀ {s a}, spells s a → read s = .ok a)
    (hbare : ∀ {s a}, spells s a → s ≠ [] ∧ ∀ c ∈ s, isBlank c = false) {name : String}
    {value : Option α} (hset : IsSetTo lookup spells name value) :
    readVariable lookup read name = .ok value := by
  cases value with
  | none =>
    have hnone : lookup (variableStem ++ name) = none := hset
    rw [readVariable, hnone]
  | some a =>
    obtain ⟨before, s, after, hlookup, hbefore, hspells, hafter⟩ := hset
    obtain ⟨hnonempty, hs⟩ := hbare hspells
    rw [readVariable, hlookup]
    simp only [String.toList_ofList, trim_padded hbefore hs hnonempty hafter, hread hspells]

theorem ofVariables_of_spelledBy {o : Overrides} {lookup : String → Option String}
    (h : o.SpelledBy lookup) : ofVariables lookup = o.settings.checked := by
  have hbool := @readVariable_of_isSetTo Bool lookup SpellsBool readBool readBool_of_spells
    SpellsBool.bare
  have hnumber := @readVariable_of_isSetTo UInt64 lookup SpellsNumber readUInt64
    readUInt64_of_spells SpellsNumber.bare
  simp only [ofVariables, hbool h.remoteEnabled, hnumber h.remoteDelay, hnumber h.localRetryDelay,
    hnumber h.remoteRetryDelay, hnumber h.slack, hbool h.remoteServesLocal]
  rfl

/-! ## Reading data -/

theorem orDefault_bool (b : Option Bool) (default : Bool) :
    Json.orDefault Json.bool? default (b.map .bool) = some (b.getD default) := by
  cases b <;> rfl

theorem orDefault_number (n : Option UInt64) (default : UInt64) :
    Json.orDefault Json.uint64? default (n.map jsonOfUInt64) = some (n.getD default) := by
  cases n with
  | none => rfl
  | some n => exact Json.uint64?_jsonOfUInt64 n

theorem orDefault_delay (n : Option UInt64) :
    Json.orDefault (Json.nullable? Json.uint64?) none (n.map jsonOfUInt64) = some n := by
  cases n with
  | none => rfl
  | some n => exact Json.nullable?_jsonOfUInt64 n

theorem localSide_of_hasFields {o : Overrides} {j : Json}
    (h : Json.HasFields DedicatedSettings.fieldNames o.localValues j) :
    DedicatedSettings.ofJson? j = some o.settings.localSide := by
  rw [DedicatedSettings.ofJson?, Json.record?_of_hasFields (by decide) rfl h]
  simp only [Overrides.localValues, bind, Option.bind, orDefault_delay, orDefault_number]
  rfl

theorem remoteSide_of_hasFields {o : Overrides} {j : Json}
    (h : Json.HasFields SpeculativeSettings.fieldNames o.remoteValues j) :
    SpeculativeSettings.ofJson? j = some o.settings.remoteSide := by
  rw [SpeculativeSettings.ofJson?, Json.record?_of_hasFields (by decide) rfl h]
  simp only [Overrides.remoteValues, bind, Option.bind, orDefault_bool, orDefault_number]
  rfl

/-- A section that is left out gives the defaults, which is what it would give without fields. -/
theorem localSide_of_isSection {o : Overrides} {part : Option Json}
    (h : IsSection DedicatedSettings.fieldNames o.localValues part) :
    Json.orDefault DedicatedSettings.ofJson? {} part = some o.settings.localSide := by
  cases part with
  | some j => exact localSide_of_hasFields h
  | none =>
    simp only [IsSection, Overrides.localValues, List.forall_mem_cons, Option.map_eq_none_iff] at h
    obtain ⟨-, hdelay, hretry, -⟩ := h
    simp only [Overrides.settings, hdelay, hretry]
    rfl

theorem remoteSide_of_isSection {o : Overrides} {part : Option Json}
    (h : IsSection SpeculativeSettings.fieldNames o.remoteValues part) :
    Json.orDefault SpeculativeSettings.ofJson? {} part = some o.settings.remoteSide := by
  cases part with
  | some j => exact remoteSide_of_hasFields h
  | none =>
    simp only [IsSection, Overrides.remoteValues, List.forall_mem_cons, Option.map_eq_none_iff] at h
    obtain ⟨hserves, hslack, hretry, -⟩ := h
    simp only [Overrides.settings, hserves, hslack, hretry]
    rfl

theorem ofText_of_writtenIn {o : Overrides} {text : String} (h : o.WrittenIn text) :
    ofText text = o.settings.checked := by
  obtain ⟨j, localSide, remoteSide, hparse, hfields, hlocal, hremote⟩ := h
  have hread : ofJson? j = some o.settings := by
    rw [ofJson?, Json.record?_of_hasFields (by decide) rfl hfields]
    simp only [bind, Option.bind, orDefault_bool, localSide_of_isSection hlocal,
      remoteSide_of_isSection hremote]
    rfl
  rw [ofText, hparse, Option.bind_some, hread]

/-! ## Writing the values -/

namespace Overrides

/-- What the variables are set to. -/
def assignments (o : Overrides) : List (String × Option String) :=
  let truth (b : Bool) := if b then "true" else "false"
  let number (n : UInt64) := String.ofList (Nat.toDigits 10 n.toNat)
  [("ENABLE_REMOTE", o.remoteEnabled.map truth), ("REMOTE_DELAY_MS", o.remoteDelay.map number),
   ("LOCAL_RETRY_DELAY_MS", o.localRetryDelay.map number),
   ("REMOTE_RETRY_DELAY_MS", o.remoteRetryDelay.map number),
   ("OBTAINMENT_SLACK", o.slack.map number), ("REMOTE_FULFILLS_LOCAL", o.remoteServesLocal.map truth)]

/-- An environment that has just these variables. -/
def lookup (o : Overrides) (key : String) : Option String :=
  (o.assignments.find? fun (name, _) => variableStem ++ name == key).bind (·.2)

/-- The data record of the values. -/
def toJson (o : Overrides) : Json :=
  .object (Json.present BrokerSettings.fieldNames
    [some (.object (Json.present DedicatedSettings.fieldNames o.localValues)),
     some (.object (Json.present SpeculativeSettings.fieldNames o.remoteValues)),
     o.remoteEnabled.map .bool])

theorem isSetTo_of_map {α : Type} {lookup : String → Option String} {spells : List Char → α → Prop}
    {name : String} {spell : α → String} {value : Option α} (hspell : ∀ a, spells (spell a).toList a)
    (hlookup : lookup (variableStem ++ name) = value.map spell) :
    IsSetTo lookup spells name value := by
  cases value with
  | none => exact hlookup
  | some a =>
    refine ⟨[], (spell a).toList, [], ?_, by simp, hspell a, by simp⟩
    rw [List.nil_append, List.append_nil, String.ofList_toList]
    exact hlookup

theorem spelledBy_lookup (o : Overrides) : o.SpelledBy o.lookup := by
  have htruth : ∀ b : Bool, SpellsBool (if b then "true" else "false").toList b := fun _ => rfl
  have hnumber : ∀ n : UInt64,
      SpellsNumber (String.ofList (Nat.toDigits 10 n.toNat)).toList n := fun n => by
    rw [String.toList_ofList]
    exact ⟨_, Nat.toDigits_ne_nil, fun c hc => Json.isDigit_of_mem hc,
      Nat.ofDigitChars_ten_toDigits, .inl rfl⟩
  exact ⟨isSetTo_of_map htruth rfl, isSetTo_of_map hnumber rfl, isSetTo_of_map hnumber rfl,
    isSetTo_of_map hnumber rfl, isSetTo_of_map hnumber rfl, isSetTo_of_map htruth rfl⟩

theorem writtenIn_render (o : Overrides) : o.WrittenIn o.toJson.render := by
  have hbool : ∀ (b : Option Bool) (j : Json), some j = b.map .bool → j.isPlain = true := by
    intro b j hj
    obtain ⟨b, -, rfl⟩ := Option.map_eq_some_iff.mp hj.symm
    rfl
  have hnumber : ∀ (n : Option UInt64) (j : Json), some j = n.map jsonOfUInt64 → j.isPlain = true := by
    intro n j hj
    obtain ⟨n, -, rfl⟩ := Option.map_eq_some_iff.mp hj.symm
    rfl
  have hplain : o.toJson.isPlain = true := by
    refine Json.isPlain_present fun j hj => ?_
    simp only [List.mem_cons, Option.some.injEq, List.not_mem_nil, or_false] at hj
    rcases hj with rfl | rfl | hj
    · refine Json.isPlain_present fun j hj => ?_
      simp only [localValues, List.mem_cons, List.not_mem_nil, or_false, reduceCtorEq, false_or] at hj
      rcases hj with hj | hj <;> exact hnumber _ j hj
    · refine Json.isPlain_present fun j hj => ?_
      simp only [remoteValues, List.mem_cons, List.not_mem_nil, or_false] at hj
      rcases hj with hj | hj | hj
      · exact hbool _ j hj
      · exact hnumber _ j hj
      · exact hnumber _ j hj
    · exact hbool _ j hj
  exact ⟨o.toJson, _, _, Json.parse?_render hplain, Json.hasFields_present _ _,
    Json.hasFields_present _ _, Json.hasFields_present _ _⟩

/-- The values that give settings which are not objected to. -/
def ofSettings (s : BrokerSettings) : Overrides where
  remoteEnabled := some s.remoteEnabled
  remoteDelay := s.localSide.remoteDelay
  localRetryDelay := some s.localSide.retryDelay
  remoteRetryDelay := some s.remoteSide.retryDelay
  slack := some s.remoteSide.slack
  remoteServesLocal := some s.remoteSide.servesLocal

theorem settings_ofSettings {s : BrokerSettings} (hs : s.check = none) :
    (ofSettings s).settings = s := by
  obtain ⟨⟨servesLocal, remoteDelay, localRetryDelay⟩, ⟨remoteServesLocal, slack, remoteRetryDelay⟩,
    remoteEnabled⟩ := s
  cases servesLocal with
  | true => rfl
  | false => simp [check] at hs

end Overrides

/-- Variables and a data text that spell the same values give the same settings or the same objection,
for whatever part of the settings that variables know; there are such variables and such a text for any
values, and variables for all settings that are not objected to. -/
theorem variables_and_data_agree :
    (∀ (o : Overrides) (lookup : String → Option String) (text : String), o.SpelledBy lookup →
      o.WrittenIn text → ofVariables lookup = ofText text ∧ ofText text = o.settings.checked) ∧
    (∀ o : Overrides, ∃ lookup text, o.SpelledBy lookup ∧ o.WrittenIn text) ∧
    ∀ s : BrokerSettings, s.check = none →
      ∃ (o : Overrides) (lookup : String → Option String), o.SpelledBy lookup ∧
        ofVariables lookup = .ok s := by
  refine ⟨fun o lookup text hlookup htext => ?_, fun o => ?_, fun s hs => ?_⟩
  · rw [ofVariables_of_spelledBy hlookup, ofText_of_writtenIn htext]
    exact ⟨rfl, rfl⟩
  · exact ⟨o.lookup, o.toJson.render, o.spelledBy_lookup, o.writtenIn_render⟩
  · refine ⟨.ofSettings s, (Overrides.ofSettings s).lookup, Overrides.spelledBy_lookup _, ?_⟩
    rw [ofVariables_of_spelledBy (Overrides.spelledBy_lookup _), Overrides.settings_ofSettings hs,
      checked, hs]

/-- Values one of which is objected to. -/
def hastyOverrides : Overrides :=
  { slack := some 7, remoteServesLocal := some true, remoteRetryDelay := some 0 }

/-- Variables that spell them in an unusual way. -/
def hastyVariables : String → Option String
  | "CORE_POOL_OBTAINMENT_SLACK" => some " +007\n"
  | "CORE_POOL_REMOTE_FULFILLS_LOCAL" => some "\ttrue"
  | "CORE_POOL_REMOTE_RETRY_DELAY_MS" => some "0"
  | _ => none

/-- Data that give them in an order of their own. -/
def hastyData : Json :=
  .object [("remote", .object (Json.present SpeculativeSettings.fieldNames
    hastyOverrides.remoteValues).reverse)]

/-- The data as a text. -/
def hastyText : String :=
  "\x7b\"remote\":\x7b\"retry_delay_ms\":0,\"obtainment_slack\":7," ++
    "\"fulfills_local_requests\":true\x7d\x7d"

theorem hastyOverrides_spelledBy : hastyOverrides.SpelledBy hastyVariables where
  remoteEnabled := rfl
  remoteDelay := rfl
  localRetryDelay := rfl
  remoteRetryDelay := ⟨[], "0".toList, [], rfl, by simp,
    ⟨"0".toList, by simp, by simp, rfl, .inl rfl⟩, by simp⟩
  slack := ⟨" ".toList, "+007".toList, "\n".toList, rfl, by simp [isBlank],
    ⟨"007".toList, by simp, by simp, rfl, .inr rfl⟩, by simp [isBlank]⟩
  remoteServesLocal := ⟨"\t".toList, "true".toList, [], rfl, by simp [isBlank], rfl, by simp⟩

theorem hastyOverrides_writtenIn : hastyOverrides.WrittenIn hastyText := by
  have hrender : hastyData.render = hastyText := by decide +kernel
  refine ⟨hastyData, none, some _, hrender ▸ Json.parse?_render rfl, ⟨_, rfl, .refl _⟩, ?_,
    ⟨_, rfl, List.reverse_perm _⟩⟩
  intro value hvalue
  simpa [Overrides.localValues, hastyOverrides] using hvalue

/-- Both are objected to in the same words; and settings at their limits are had from variables. -/
theorem variables_and_data_agree_hasty :
    (hastyOverrides.SpelledBy hastyVariables ∧ hastyOverrides.WrittenIn hastyText ∧
      ofVariables hastyVariables = ofText hastyText ∧
      ofText hastyText = .error "remote fulfiller invalid: retry_delay_ms must be greater than 0") ∧
    ∃ s : BrokerSettings, s.check = none ∧ s.remoteSide.slack = 18446744073709551615 ∧
      ∃ (o : Overrides) (lookup : String → Option String), o.SpelledBy lookup ∧
        ofVariables lookup = .ok s := by
  obtain ⟨hagree, -, hevery⟩ := variables_and_data_agree
  obtain ⟨hsame, hchecked⟩ := hagree _ _ _ hastyOverrides_spelledBy hastyOverrides_writtenIn
  refine ⟨⟨hastyOverrides_spelledBy, hastyOverrides_writtenIn, hsame, ?_⟩,
    { remoteSide := { slack := 18446744073709551615 } }, rfl, rfl, hevery _ rfl⟩
  rw [hchecked]
  rfl

end BrokerSettings

end CoreBroker
