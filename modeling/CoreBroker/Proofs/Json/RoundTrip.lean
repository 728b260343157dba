import CoreBroker.Proofs.Json.Records
import CoreBroker.Statistics
import CoreBroker.Summary
set_option autoImplicit false

/-!
# Data records read back

Whatever the library writes as data it reads back: preferences and constraints, counts and summaries of
requests, sightings of providers, and the settings of fulfillers and brokers.  A text that was written by
somebody else is settled by one reading: written anew, it stays as it is.
-/

namespace CoreBroker

/-! ## Identifiers -/

namespace Uuid

theorem length_hexDigits (n v : Nat) : (hexDigits n v).length = n := by
  induction n generalizing v with
  | zero => rfl
  | succ n ih => rw [hexDigits, List.length_append, ih, List.length_singleton]

theorem hexValue?_digitChar {d : Nat} (hd : d < 16) : hexValue? (Nat.digitChar d) = some d := by
  revert d
  decide

/-- The digits stand for the number, as far as they go. -/
theorem mapM_hexDigits (n v : Nat) : ∃ ds, (hexDigits n v).mapM hexValue? = some ds ∧
    ds.foldl (fun v d => v * 16 + d) 0 = v % 16 ^ n := by
  induction n generalizing v with
  | zero => exact ⟨[], rfl, (Nat.mod_one v).symm⟩
  | succ n ih =>
    obtain ⟨ds, hds, hvalue⟩ := ih (v / 16)
    refine ⟨ds ++ [v % 16], ?_, ?_⟩
    · rw [hexDigits, List.mapM_append, hds]
      simp [hexValue?_digitChar (Nat.mod_lt v (by decide : 0 < 16))]
    · rw [List.foldl_append, hvalue, List.foldl_cons, List.foldl_nil, Nat.pow_succ']
      rw [Nat.mod_mul]
      omega

theorem ofDigits?_hexDigits (u : Uuid) : ofDigits? (hexDigits 32 u.value) = some u := by
  obtain ⟨ds, hds, hvalue⟩ := mapM_hexDigits 32 u.value
  have hlt : u.value < 16 ^ 32 := u.value_lt
  rw [Nat.mod_eq_of_lt hlt] at hvalue
  simp only [ofDigits?, length_hexDigits, hds, hvalue, u.value_lt, if_true, dif_pos]

/-- Digits cut into groups are put together again. -/
theorem unhyphenate?_hyphenate {lengths : List Nat} (hlengths : lengths ≠ []) {ds : List Char}
    (hds : ds.length = lengths.sum) : unhyphenate? lengths (hyphenate lengths ds) = some ds := by
  induction lengths generalizing ds with
  | nil => exact absurd rfl hlengths
  | cons n rest ih =>
    cases rest with
    | nil =>
      have hn : ds.length = n := by simpa using hds
      rw [hyphenate, unhyphenate?, List.take_of_length_le (Nat.le_of_eq hn), if_pos hn]
    | cons m rest =>
      have htake : (ds.take n).length = n := by
        rw [List.length_take]
        simp only [List.sum_cons] at hds
        omega
      have hlength : (ds.drop n).length = (m :: rest).sum := by
        rw [List.length_drop, hds, List.sum_cons]
        omega
      have hrest := ih (by simp) hlength
      have hdrop : (ds.take n ++ '-' :: hyphenate (m :: rest) (ds.drop n)).drop n =
          '-' :: hyphenate (m :: rest) (ds.drop n) := List.drop_left' htake
      rw [hyphenate.eq_3 _ _ _ (by simp), unhyphenate?.eq_3 _ _ _ (by simp), hdrop]
      simp only [hrest, Option.map_some, List.take_left' htake, List.take_append_drop]

theorem length_chars (u : Uuid) : u.chars.length = 36 := by
  simp [chars, groups, hyphenate, length_hexDigits]

theorem parse?_render (u : Uuid) : parse? u.render = some u := by
  have hsplit : unhyphenate? groups u.chars = some (hexDigits 32 u.value) :=
    unhyphenate?_hyphenate (by decide) (length_hexDigits 32 u.value)
  have hnot : ¬ u.chars.length = 32 := by rw [length_chars]; decide
  rw [parse?, render, String.toList_ofList, ofChars?, if_neg hnot, if_pos (length_chars u),
    ofHyphenated?, hsplit, Option.bind_some, ofDigits?_hexDigits]

end Uuid

namespace Json

/-! ## Kinds of data -/

/-- A kind of data: how its values are written and read, and which values there are. -/
structure Codec (α : Type) where
  write : α → Json
  read? : Json → Option α
  /-- The value is in the range of the kind. -/
  Holds : α → Prop := fun _ => True

namespace Codec

variable {α : Type} (c : Codec α)

/-- The compact text of a value. -/
def text (a : α) : String := (c.write a).render

/-- The value a text stands for. -/
def parse? (t : String) : Option α := (Json.parse? t).bind c.read?

/-- What is written is read back, and what was read from any text whatever is settled: its own text is
read as the same value and written as the same text. -/
structure RoundTrips : Prop where
  parse?_text : ∀ a, c.Holds a → c.parse? (c.text a) = some a
  settled : ∀ t a, c.parse? t = some a →
    c.parse? (c.text a) = some a ∧ (c.parse? (c.text a)).map c.text = some (c.text a)

variable {c}

/-- It is enough to look at the data between the value and the text. -/
theorem roundTrips_of (hplain : ∀ a, (c.write a).isPlain = true)
    (hread : ∀ a, c.Holds a → c.read? (c.write a) = some a)
    (hholds : ∀ j a, c.read? j = some a → c.Holds a) : c.RoundTrips := by
  have hparse : ∀ a, c.Holds a → c.parse? (c.text a) = some a := fun a ha => by
    rw [parse?, text, Json.parse?_render (hplain a), Option.bind_some, hread a ha]
  refine ⟨hparse, fun t a ht => ?_⟩
  obtain ⟨j, -, hj⟩ := Option.bind_eq_some_iff.mp ht
  have hback := hparse a (hholds j a hj)
  exact ⟨hback, by rw [hback, Option.map_some]⟩

end Codec

end Json

open Json

/-! ## Words -/

namespace Preference

/-- Preferences as data. -/
def codec : Codec Preference := { write := toJson, read? := ofJson? }

theorem codec_roundTrips : codec.RoundTrips :=
  Codec.roundTrips_of (fun _ => rfl) (fun p _ => ofWord?_word p) fun _ _ _ => trivial

end Preference

namespace Constraint

/-- Constraints as data. -/
def codec : Codec Constraint := { write := toJson, read? := ofJson? }

theorem codec_roundTrips : codec.RoundTrips :=
  Codec.roundTrips_of (fun _ => rfl) (fun c _ => ofWord?_word c) fun _ _ _ => trivial

end Constraint

/-! ## Counts, summaries and sightings -/

namespace Statistics

/-- Counts of requests as data; a counter has sixty-four bits. -/
def codec : Codec Statistics where
  write := toJson
  read? := ofJson?
  Holds s := ∀ n ∈ s.toList, n < counterRange

theorem codec_roundTrips : codec.RoundTrips := by
  refine Codec.roundTrips_of (fun _ => rfl) (fun s hs => ?_) fun j s hj => ?_
  · simp only [codec, toList, List.forall_mem_cons] at hs
    obtain ⟨ha, hb, hc, hd, -⟩ := hs
    have hfound : record? fieldNames s.toJson = some ((s.toList.map Json.count).map some) :=
      record?_zip (by decide) rfl
    simp only [codec, ofJson?, hfound, toList, List.map_cons, List.map_nil, bind, Option.bind]
    rw [nat?_count ha, nat?_count hb, nat?_count hc, nat?_count hd]
    rfl
  · obtain ⟨parts, -, hparts⟩ := Option.bind_eq_some_iff.mp hj
    split at hparts
    · simp only [bind, Option.bind_eq_some_iff] at hparts
      obtain ⟨a, ha, b, hb, c, hc, d, hd, hs⟩ := hparts
      obtain rfl := Option.some.inj hs
      simp only [codec, toList, List.forall_mem_cons]
      exact ⟨lt_of_nat? ha, lt_of_nat? hb, lt_of_nat? hc, lt_of_nat? hd, by simp⟩
    · exact absurd hparts (by simp)

end Statistics

namespace Span

theorem read?_write {s : Span} (hs : s.secs < UInt64.size) : ofJson? s.toJson = some s := by
  have hnanos : s.nanos < Nat.pow 2 32 := Nat.lt_trans s.nanos_lt (by decide)
  have hfound : strictRecord? ["secs", "nanos"] s.toJson =
      some [some (.count s.secs), some (.count s.nanos)] := rfl
  simp only [ofJson?, hfound, bind, Option.bind]
  rw [nat?_count (show s.secs < Nat.pow 2 64 from hs), nat?_count hnanos]
  simp only [ofParts_self, if_pos hs]

theorem secs_lt {j : Json} {s : Span} (hj : ofJson? j = some s) : s.secs < UInt64.size := by
  obtain ⟨parts, -, hparts⟩ := Option.bind_eq_some_iff.mp hj
  split at hparts
  · simp only [bind, Option.bind_eq_some_iff, Option.ite_none_right_eq_some] at hparts
    obtain ⟨secs, -, nanos, -, hlt, hs⟩ := hparts
    exact Option.some.inj hs ▸ hlt
  · exact absurd hparts (by simp)

end Span

namespace Summary

/-- Summaries of requests as data; the time of creation has 128 bits. -/
def codec : Codec (Summary Uuid) where
  write := toJson Uuid.render
  read? := ofJson?
  Holds s := s.createdWall < Nat.pow 2 128 ∧ s.age.secs < UInt64.size

theorem codec_roundTrips : codec.RoundTrips := by
  refine Codec.roundTrips_of (fun _ => rfl) (fun s hs => ?_) fun j s hj => ?_
  · obtain ⟨hcreated, hage⟩ := hs
    have hfound : record? fieldNames (s.toJson Uuid.render) = some ([.text s.id.render,
        s.preference.toJson, .bool s.isFulfilled, .count s.createdWall, s.age.toJson].map some) :=
      record?_zip (by decide) rfl
    have hpreference : Preference.ofJson? s.preference.toJson = some s.preference :=
      Preference.ofWord?_word s.preference
    simp only [codec, ofJson?, hfound, List.map_cons, List.map_nil, bind, Option.bind, text?,
      Uuid.parse?_render, hpreference, bool?]
    rw [nat?_count hcreated, Span.read?_write hage]
    rfl
  · obtain ⟨parts, -, hparts⟩ := Option.bind_eq_some_iff.mp hj
    split at hparts
    · simp only [bind, Option.bind_eq_some_iff] at hparts
      obtain ⟨id, -, preference, -, isFulfilled, -, createdWall, hcreated, age, hage, hs⟩ := hparts
      obtain rfl := Option.some.inj hs
      exact ⟨lt_of_nat? hcreated, Span.secs_lt hage⟩
    · exact absurd hparts (by simp)

end Summary

namespace Sighting

/-- Sightings of providers as data. -/
def codec : Codec Sighting := { write := toJson, read? := ofJson? }

theorem codec_roundTrips : codec.RoundTrips := by
  refine Codec.roundTrips_of (fun _ => rfl) (fun s _ => ?_) fun _ _ _ => trivial
  have hfound : record? fieldNames s.toJson =
      some ([.text s.providerId, .bool s.isObtaining, .bool s.hasCore].map some) :=
    record?_zip (by decide) rfl
  simp only [codec, ofJson?, hfound, List.map_cons, List.map_nil, bind, Option.bind, text?, bool?]
  rfl

end Sighting

/-! ## Settings -/

namespace DedicatedSettings

/-- Settings of a dedicated fulfiller as data. -/
def codec : Codec DedicatedSettings := { write := toJson, read? := ofJson? }

theorem read?_write (s : DedicatedSettings) : ofJson? s.toJson = some s := by
  have hfound : record? fieldNames s.toJson = some ([.bool s.servesLocal,
      ofOption jsonOfUInt64 s.remoteDelay, jsonOfUInt64 s.retryDelay].map some) :=
    record?_zip (by decide) rfl
  simp only [ofJson?, hfound, List.map_cons, List.map_nil, bind, Option.bind, orDefault, bool?,
    nullable?_ofOption, uint64?_jsonOfUInt64]
  rfl

theorem codec_roundTrips : codec.RoundTrips := by
  refine Codec.roundTrips_of (fun s => ?_) (fun s _ => read?_write s) fun _ _ _ => trivial
  obtain ⟨servesLocal, remoteDelay, retryDelay⟩ := s
  cases remoteDelay <;> rfl

end DedicatedSettings

namespace SpeculativeSettings

/-- Settings of a speculative fulfiller as data. -/
def codec : Codec SpeculativeSettings := { write := toJson, read? := ofJson? }

theorem read?_write (s : SpeculativeSettings) : ofJson? s.toJson = some s := by
  have hfound : record? fieldNames s.toJson = some ([.bool s.servesLocal, jsonOfUInt64 s.slack,
      jsonOfUInt64 s.retryDelay].map some) := record?_zip (by decide) rfl
  simp only [ofJson?, hfound, List.map_cons, List.map_nil, bind, Option.bind, orDefault, bool?,
    uint64?_jsonOfUInt64]
  rfl

theorem codec_roundTrips : codec.RoundTrips :=
  Codec.roundTrips_of (fun _ => rfl) (fun s _ => read?_write s) fun _ _ _ => trivial

end SpeculativeSettings

namespace BrokerSettings

/-- Settings of a broker as data. -/
def codec : Codec BrokerSettings := { write := toJson, read? := ofJson? }

theorem codec_roundTrips : codec.RoundTrips := by
  refine Codec.roundTrips_of (fun s => ?_) (fun s _ => ?_) fun _ _ _ => trivial
  · obtain ⟨⟨servesLocal, remoteDelay, retryDelay⟩, remoteSide, remoteEnabled⟩ := s
    cases remoteDelay <;> rfl
  · have hfound : record? fieldNames s.toJson =
        some ([s.localSide.toJson, s.remoteSide.toJson, .bool s.remoteEnabled].map some) :=
      record?_zip (by decide) rfl
    simp only [codec, ofJson?, hfound, List.map_cons, List.map_nil, bind, Option.bind, orDefault,
      bool?, DedicatedSettings.read?_write, SpeculativeSettings.read?_write]
    rfl

end BrokerSettings

/-- Every kind of data the library writes is read back as it was written, and any text of it that is
accepted at all is settled by one reading. -/
theorem data_round_trips :
    Preference.codec.RoundTrips ∧ Constraint.codec.RoundTrips ∧ Statistics.codec.RoundTrips ∧
      Summary.codec.RoundTrips ∧ Sighting.codec.RoundTrips ∧ DedicatedSettings.codec.RoundTrips ∧
      SpeculativeSettings.codec.RoundTrips ∧ BrokerSettings.codec.RoundTrips :=
  ⟨Preference.codec_roundTrips, Constraint.codec_roundTrips, Statistics.codec_roundTrips,
    Summary.codec_roundTrips, Sighting.codec_roundTrips, DedicatedSettings.codec_roundTrips,
    SpeculativeSettings.codec_roundTrips, BrokerSettings.codec_roundTrips⟩

end CoreBroker
