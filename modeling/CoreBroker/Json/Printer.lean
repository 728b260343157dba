import CoreBroker.Json.Basic
set_option autoImplicit false

/-!
# Writing data values

The compact form: no white space, fields in order, and in strings only the quotation mark, the
backslash and the control characters below U+0020 escaped.
-/

namespace CoreBroker.Json

/-- The lower-case hexadecimal digit of a number below sixteen. -/
def hexDigit (n : Nat) : Char := Nat.digitChar n

/-- How a character is written inside a string. -/
def escaped (c : Char) : List Char :=
  if c = '"' then ['\\', '"']
  else if c = '\\' then ['\\', '\\']
  else if c = '\x08' then ['\\', 'b']
  else if c = '\x0c' then ['\\', 'f']
  else if c = '\n' then ['\\', 'n']
  else if c = '\r' then ['\\', 'r']
  else if c = '\t' then ['\\', 't']
  else if c.val < 0x20 then
    ['\\', 'u', '0', '0', hexDigit (c.val.toNat / 16), hexDigit (c.val.toNat % 16)]
  else [c]

/-- A string between its quotation marks. -/
def quoted (s : String) : List Char := '"' :: s.toList.flatMap escaped ++ ['"']

/-- The digits of an integer, with a minus sign in front of a negative one. -/
def digits : Int → List Char
  | .ofNat n => Nat.toDigits 10 n
  | .negSucc n => '-' :: Nat.toDigits 10 (n + 1)

mutual
/-- The compact form of a value. -/
def chars : Json → List Char
  | .null => "null".toList
  | .bool true => "true".toList
  | .bool false => "false".toList
  | .integer n => digits n
  | .decimal literal => literal.toList
  | .text s => quoted s
  | .list items => '[' :: itemChars items
  | .object fields => '{' :: fieldChars fields
  | .unreadable => "null".toList

/-- The rest of a list after its opening bracket. -/
def itemChars : List Json → List Char
  | [] => [']']
  | [j] => chars j ++ [']']
  | j :: next :: rest => chars j ++ ',' :: itemChars (next :: rest)

/-- The rest of an object after its opening brace. -/
def fieldChars : List (String × Json) → List Char
  | [] => ['}']
  | [(name, j)] => quoted name ++ ':' :: chars j ++ ['}']
  | (name, j) :: next :: rest =>
    quoted name ++ ':' :: chars j ++ ',' :: fieldChars (next :: rest)
end

/-- The compact text of a value. -/
def render (j : Json) : String := String.ofList j.chars

end CoreBroker.Json
