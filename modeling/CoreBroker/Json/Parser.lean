import CoreBroker.Json.Basic
set_option autoImplicit false

/-!
# Reading data values

A reader takes the characters still to come and gives back what it read with the characters that
follow, or `none` where the text is malformed.  The grammar is strict: no leading zeros, no trailing
commas, no raw control characters in strings.  Values may be nested to any depth.

A string is read in two passes.  The first only finds where it ends and splits it into plain
characters and code units; the second joins surrogate pairs.  A text whose units do not pair up is
still a well formed text, so it is read as `unreadable` rather than refused.
-/

namespace CoreBroker.Json

/-- A reader of an `α` in front of the remaining characters. -/
abbrev Reader (α : Type) := List Char → Option (α × List Char)

/-- The blanks that may stand between the parts of a value. -/
def isSpace (c : Char) : Bool := c == ' ' || c == '\n' || c == '\t' || c == '\r'

/-- What follows the blanks in front. -/
def skipSpace (s : List Char) : List Char := s.dropWhile isSpace

/-! ## Strings -/

/-- The value of a hexadecimal digit. -/
def hexValue? (c : Char) : Option Nat :=
  let n := c.val.toNat
  if 48 ≤ n ∧ n ≤ 57 then some (n - 48)
  else if 97 ≤ n ∧ n ≤ 102 then some (n - 87)
  else if 65 ≤ n ∧ n ≤ 70 then some (n - 55)
  else none

/-- The number written by four hexadecimal digits. -/
def hex4? (a b c d : Char) : Option Nat := do
  return (((← hexValue? a) * 16 + (← hexValue? b)) * 16 + (← hexValue? c)) * 16 + (← hexValue? d)

/-- An element of a string: a character, or a code unit given by its number. -/
inductive Element where
  | plain (c : Char)
  | unit (n : Nat)
  deriving DecidableEq, Repr

/-- The character meant by a one-letter escape. -/
def escape? : Char → Option Char
  | '"' => some '"'
  | '\\' => some '\\'
  | '/' => some '/'
  | 'b' => some '\x08'
  | 'f' => some '\x0c'
  | 'n' => some '\n'
  | 'r' => some '\r'
  | 't' => some '\t'
  | _ => none

/-- The elements of a string whose opening quotation mark has been read. -/
def elements : Reader (List Element)
  | [] => none
  | '"' :: rest => some ([], rest)
  | '\\' :: 'u' :: a :: b :: c :: d :: rest =>
    match hex4? a b c d, elements rest with
    | some n, some (tail, rest) => some (.unit n :: tail, rest)
    | _, _ => none
  | '\\' :: e :: rest =>
    match escape? e, elements rest with
    | some c, some (tail, rest) => some (.plain c :: tail, rest)
    | _, _ => none
  | c :: rest =>
    if c.val < 0x20 then none
    else (elements rest).map fun (tail, rest) => (.plain c :: tail, rest)

/-- The unit can only open a surrogate pair. -/
def isLead (n : Nat) : Bool := 0xD800 ≤ n && n < 0xDC00

/-- The unit can only close a surrogate pair. -/
def isTrail (n : Nat) : Bool := 0xDC00 ≤ n && n < 0xE000

/-- The characters written by elements, if every surrogate stands in a pair. -/
def join : List Element → Option (List Char)
  | [] => some []
  | .plain c :: rest => (join rest).map (c :: ·)
  | .unit n :: .unit m :: rest =>
    if isLead n && isTrail m then
      (join rest).map (Char.ofNat (0x10000 + (n - 0xD800) * 0x400 + (m - 0xDC00)) :: ·)
    else if isLead n || isTrail n then none
    else (join (.unit m :: rest)).map (Char.ofNat n :: ·)
  | .unit n :: rest =>
    if isLead n || isTrail n then none else (join rest).map (Char.ofNat n :: ·)

/-- A string whose opening quotation mark has been read; the text is absent where it cannot be
told from its elements. -/
def string : Reader (Option String) := fun s =>
  (elements s).map fun (es, rest) => ((join es).map String.ofList, rest)

/-! ## Numbers -/

/-- The longest run of digits in front. -/
def digitRun (s : List Char) : List Char × List Char := s.span Char.isDigit

/-- The number spelled by digits. -/
def natOfDigits (s : List Char) : Nat :=
  s.foldl (fun n c => 10 * n + (c.val.toNat - 48)) 0

/-- The digits before the point: a lone zero, or digits that do not start with one. -/
def wholePart : Reader (List Char) := fun s =>
  match digitRun s with
  | ([], _) => none
  | ('0' :: _ :: _, _) => none
  | (ds, rest) => some (ds, rest)

/-- The point and the digits after it; empty where there is no point. -/
def fraction : Reader (List Char)
  | '.' :: s =>
    match digitRun s with
    | ([], _) => none
    | (ds, rest) => some ('.' :: ds, rest)
  | s => some ([], s)

/-- The digits of an exponent after its sign. -/
def exponentDigits (front : List Char) : Reader (List Char) := fun s =>
  match digitRun s with
  | ([], _) => none
  | (ds, rest) => some (front ++ ds, rest)

/-- The exponent; empty where there is none. -/
def exponent : Reader (List Char)
  | 'e' :: '+' :: s => exponentDigits ['e', '+'] s
  | 'e' :: '-' :: s => exponentDigits ['e', '-'] s
  | 'e' :: s => exponentDigits ['e'] s
  | 'E' :: '+' :: s => exponentDigits ['E', '+'] s
  | 'E' :: '-' :: s => exponentDigits ['E', '-'] s
  | 'E' :: s => exponentDigits ['E'] s
  | s => some ([], s)

/-- A number without its sign: digits, fraction and exponent as spelled. -/
def magnitude : Reader (List Char × List Char) := fun s => do
  let (ds, s) ← wholePart s
  let (f, s) ← fraction s
  let (e, s) ← exponent s
  return ((ds, f ++ e), s)

/-- A number.  It is an integer if it has neither fraction nor exponent; a minus sign in front of
zero makes a negative zero, which is no integer. -/
def number : Reader Json
  | '-' :: s =>
    match magnitude s with
    | none => none
    | some ((ds, []), rest) =>
      if natOfDigits ds = 0 then some (.decimal "-0", rest)
      else some (.integer (-(natOfDigits ds : Int)), rest)
    | some ((ds, tail), rest) => some (.decimal (String.ofList ('-' :: ds ++ tail)), rest)
  | s =>
    match magnitude s with
    | none => none
    | some ((ds, []), rest) => some (.integer (natOfDigits ds), rest)
    | some ((ds, tail), rest) => some (.decimal (String.ofList (ds ++ tail)), rest)

/-! ## Values -/

/-- The object of fields read; one unreadable name makes it unreadable as a whole. -/
def ofFields (fields : List (Option String × Json)) : Json :=
  match fields.mapM fun (name, j) => name.map (·, j) with
  | some named => .object named
  | none => .unreadable

mutual
/-- A value, after the blanks in front of it.  The fuel bounds the nesting and the number of parts
together; one more than the number of characters is enough. -/
def value : Nat → Reader Json
  | 0, _ => none
  | fuel + 1, s =>
    match skipSpace s with
    | 'n' :: 'u' :: 'l' :: 'l' :: rest => some (.null, rest)
    | 't' :: 'r' :: 'u' :: 'e' :: rest => some (.bool true, rest)
    | 'f' :: 'a' :: 'l' :: 's' :: 'e' :: rest => some (.bool false, rest)
    | '"' :: rest =>
      (string rest).map fun (t, rest) => (t.elim .unreadable .text, rest)
    | '[' :: rest =>
      match skipSpace rest with
      | ']' :: rest => some (.list [], rest)
      | rest => (items fuel rest).map fun (js, rest) => (.list js, rest)
    | '{' :: rest =>
      match skipSpace rest with
      | '}' :: rest => some (.object [], rest)
      | rest => (fields fuel rest).map fun (fs, rest) => (ofFields fs, rest)
    | rest => number rest

/-- The items of a list that has at least one, up to its closing bracket. -/
def items : Nat → Reader (List Json)
  | 0, _ => none
  | fuel + 1, s =>
    match value fuel s with
    | none => none
    | some (j, rest) =>
      match skipSpace rest with
      | ']' :: rest => some ([j], rest)
      | ',' :: rest => (items fuel rest).map fun (js, rest) => (j :: js, rest)
      | _ => none

/-- The fields of an object that has at least one, up to its closing brace. -/
def fields : Nat → Reader (List (Option String × Json))
  | 0, _ => none
  | fuel + 1, s =>
    match skipSpace s with
    | '"' :: rest =>
      match string rest with
      | none => none
      | some (name, rest) =>
        match skipSpace rest with
        | ':' :: rest =>
          match value fuel rest with
          | none => none
          | some (j, rest) =>
            match skipSpace rest with
            | '}' :: rest => some ([(name, j)], rest)
            | ',' :: rest => (fields fuel rest).map fun (fs, rest) => ((name, j) :: fs, rest)
            | _ => none
        | _ => none
    | _ => none
end

/-- Reads a whole text as one value with nothing but blanks around it. -/
def parse? (text : String) : Option Json :=
  match value (text.toList.length + 1) text.toList with
  | some (j, rest) => if skipSpace rest = [] then some j else none
  | none => none

end CoreBroker.Json
