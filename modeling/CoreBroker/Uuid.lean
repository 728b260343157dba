set_option autoImplicit false

/-!
# Identifiers of requests

A request is identified by a number of 128 bits.  It is written in five groups of lower-case
hexadecimal digits; the other usual spellings are read as well.
-/

namespace CoreBroker

/-- A number of 128 bits. -/
structure Uuid where
  value : Nat
  value_lt : value < Nat.pow 2 128
  deriving DecidableEq, Repr

namespace Uuid

/-- The identifier all of whose bits are zero. -/
def nil : Uuid := ⟨0, by decide⟩

instance : Inhabited Uuid := ⟨nil⟩

/-- The `n` lowest hexadecimal digits of `v`, highest first. -/
def hexDigits : Nat → Nat → List Char
  | 0, _ => []
  | n + 1, v => hexDigits n (v / 16) ++ [Nat.digitChar (v % 16)]

/-- The lengths of the groups of digits. -/
def groups : List Nat := [8, 4, 4, 4, 12]

/-- Digits cut into groups of the given lengths, with hyphens between them. -/
def hyphenate : List Nat → List Char → List Char
  | [], _ => []
  | [n], ds => ds.take n
  | n :: rest, ds => ds.take n ++ '-' :: hyphenate rest (ds.drop n)

/-- The hyphenated form. -/
def chars (u : Uuid) : List Char := hyphenate groups (hexDigits 32 u.value)

/-- The hyphenated form as a text. -/
def render (u : Uuid) : String := String.ofList u.chars

/-- The value of a hexadecimal digit of either case. -/
def hexValue? (c : Char) : Option Nat :=
  let n := c.val.toNat
  if 48 ≤ n ∧ n ≤ 57 then some (n - 48)
  else if 97 ≤ n ∧ n ≤ 102 then some (n - 87)
  else if 65 ≤ n ∧ n ≤ 70 then some (n - 55)
  else none

/-- Thirty-two hexadecimal digits. -/
def ofDigits? (ds : List Char) : Option Uuid :=
  if ds.length = 32 then
    match ds.mapM hexValue? with
    | some ns =>
      let v := ns.foldl (fun v d => v * 16 + d) 0
      if h : v < Nat.pow 2 128 then some ⟨v, h⟩ else none
    | none => none
  else none

/-- The digits of a hyphenated form, if the hyphens stand where they should. -/
def unhyphenate? : List Nat → List Char → Option (List Char)
  | [], _ => none
  | [n], s => if s.length = n then some s else none
  | n :: rest, s =>
    match s.drop n with
    | '-' :: tail => (unhyphenate? rest tail).map (s.take n ++ ·)
    | _ => none

/-- Reads the hyphenated form. -/
def ofHyphenated? (s : List Char) : Option Uuid := (unhyphenate? groups s).bind ofDigits?

/-- The text in front of the form for names. -/
def urnFront : List Char := "urn:uuid:".toList

/-- Reads any of the four forms: digits alone, hyphenated, hyphenated between braces, and
hyphenated behind `urn:uuid:`. -/
def ofChars? (s : List Char) : Option Uuid :=
  if s.length = 32 then ofDigits? s
  else if s.length = 36 then ofHyphenated? s
  else if s.length = 38 then
    if s.head? = some '{' ∧ s.getLast? = some '}' then ofHyphenated? (s.drop 1).dropLast else none
  else if s.length = 45 then
    if s.take 9 = urnFront then ofHyphenated? (s.drop 9) else none
  else none

/-- Reads an identifier. -/
def parse? (s : String) : Option Uuid := ofChars? s.toList

end Uuid

end CoreBroker
