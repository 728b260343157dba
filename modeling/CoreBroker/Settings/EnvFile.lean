import CoreBroker.Settings.Variables
import CoreBroker.Text.Alphanumeric
import CoreBroker.Text.Blank
set_option autoImplicit false

/-!
# Environment files

A file of `NAME=value` lines that stands in for variables the environment does not have.  Values
may be quoted, may go over several lines inside quotation marks, and may refer to variables by
`$NAME` or by the name in braces.  The first line for a variable wins, the environment wins over
the file, and reading stops without complaint at the first line that is no assignment.
-/

namespace CoreBroker.EnvFile

/-! ## Lines

A line ends at a line break that is not inside quotation marks. -/

/-- The lines of a text, each with the line break that ends it. -/
def physicalLines : List Char → List (List Char)
  | [] => []
  | '\n' :: rest => ['\n'] :: physicalLines rest
  | c :: rest =>
    match physicalLines rest with
    | [] => [[c]]
    | line :: lines => (c :: line) :: lines

/-- Where a scan for the end of a line stands. -/
inductive Scan where
  | plain
  | blank
  | escape
  | weak
  | weakEscape
  | strong
  | strongEscape
  deriving DecidableEq, Repr

/-- How an unquoted character moves the scan on; `other` is for characters of no importance. -/
def Scan.unquoted (c : Char) (other : Scan) : Scan :=
  if c = '\\' then .escape else if c = '"' then .weak else if c = '\'' then .strong else other

/-- How a character moves the scan on. -/
def Scan.next : Scan → Char → Scan
  | .plain, c =>
    if Text.isBlank c && c != '\n' && c != '\r' then .blank else Scan.unquoted c .plain
  | .blank, c => Scan.unquoted c .plain
  | .escape, _ => .plain
  | .weak, c => if c = '\\' then .weakEscape else if c = '"' then .plain else .weak
  | .weakEscape, _ => .weak
  | .strong, c => if c = '\\' then .strongEscape else if c = '\'' then .plain else .strong
  | .strongEscape, _ => .strong

/-- What a scan of one more physical line finds. -/
inductive Ending where
  /-- A comment begins; the part of the line in front of it is given. -/
  | comment (front : List Char)
  /-- The line is over and the scan stands as given. -/
  | reached (scan : Scan)
  deriving DecidableEq, Repr

/-- Scans a physical line.  A number sign right after a blank begins a comment. -/
def scanLine : Scan → List Char → Ending
  | scan, [] => .reached scan
  | .blank, '#' :: _ => .comment []
  | scan, c :: rest =>
    match scanLine (scan.next c) rest with
    | .comment front => .comment (c :: front)
    | reached => reached

/-- The text without the line break at its end. -/
def dropBreak (s : List Char) : List Char :=
  match s.reverse with
  | '\n' :: '\r' :: rest => rest.reverse
  | '\n' :: rest => rest.reverse
  | _ => s

/-- Whether the first character that is not white space is a number sign. -/
def isComment (s : List Char) : Bool := (s.dropWhile Text.isBlank).head? == some '#'

/-- The lines of a file; `none` stands for an end of file inside a line and comes last.  The first
two arguments are the scan and the text of the line begun. -/
def lines : Scan → List Char → List (List Char) → List (Option (List Char))
  | .plain, _, [] => []
  | _, _, [] => [none]
  | scan, begun, line :: rest =>
    if isComment (begun ++ line) then lines .plain [] rest
    else match scanLine scan line with
      | .comment front => some (begun ++ front) :: lines .plain [] rest
      | .reached .plain => some (dropBreak (begun ++ line)) :: lines .plain [] rest
      | .reached scan => lines scan (begun ++ line) rest

/-! ## Values -/

/-- Where the reading of a value stands. -/
inductive Mode where
  /-- Taking characters as they come. -/
  | text
  /-- After a backslash. -/
  | escape
  /-- Inside single quotation marks. -/
  | strong
  /-- Inside the name of a variable after a dollar sign. -/
  | name (letters : List Char)
  /-- Inside the name of a variable between braces. -/
  | braced (letters : List Char)
  /-- After the end of the value; only blanks and a comment may follow. -/
  | over
  deriving DecidableEq, Repr

/-- A value as far as it has been read; `weak` says whether double quotation marks are open. -/
structure Value where
  output : List Char := []
  weak : Bool := false
  mode : Mode := .text
  deriving DecidableEq, Repr

/-- The character meant by an escape in a value. -/
def escape? (c : Char) : Option Char :=
  if c = '\\' ∨ c = '\'' ∨ c = '"' ∨ c = '$' ∨ c = ' ' then some c
  else if c = 'n' then some '\n'
  else none

namespace Value

variable (lookup : String → Option String)

/-- Appends characters. -/
def push (v : Value) (s : List Char) : Value := { v with output := v.output ++ s }

/-- Appends the value of a variable, if it has one. -/
def substitute (v : Value) (name : List Char) : Value :=
  v.push ((lookup (String.ofList name)).getD "").toList

/-- Takes one more character, or refuses it. -/
def next? (v : Value) (c : Char) : Option Value :=
  match v.mode with
  | .over => if c = ' ' ∨ c = '\t' then some v else none
  | .escape => (escape? c).map fun c => { v.push [c] with mode := .text }
  | .strong => some (if c = '\'' then { v with mode := .text } else v.push [c])
  | .name letters =>
    if Text.isAlphanumeric c then some { v with mode := .name (letters ++ [c]) }
    else if c = '{' ∧ letters = [] then some { v with mode := .braced [] }
    else
      let v := v.substitute lookup letters
      some (if c = '$' then { v with mode := .name [] } else { v.push [c] with mode := .text })
  | .braced letters =>
    some (if c = '}' then { v.substitute lookup letters with mode := .text }
          else { v with mode := .braced (letters ++ [c]) })
  | .text =>
    some (if c = '$' then { v with mode := .name [] }
      else if c = '\\' then { v with mode := .escape }
      else if v.weak then (if c = '"' then { v with weak := false } else v.push [c])
      else if c = '\'' then { v with mode := .strong }
      else if c = '"' then { v with weak := true }
      else if c = ' ' ∨ c = '\t' then { v with mode := .over }
      else v.push [c])

/-- The value when its line is over, unless a quotation mark or a brace is still open. -/
def finish? (v : Value) : Option (List Char) :=
  match v.weak, v.mode with
  | true, _ => none
  | false, .strong => none
  | false, .braced _ => none
  | false, .name letters => some (v.substitute lookup letters).output
  | false, _ => some v.output

/-- Reads the rest of a value; a number sign after its end begins a comment. -/
def read? : Value → List Char → Option (List Char)
  | v, [] => v.finish? lookup
  | v, c :: rest =>
    if v.mode = .over ∧ c = '#' then v.finish? lookup
    else (v.next? lookup c).bind fun v => read? v rest

end Value

/-! ## Assignments -/

/-- The character may stand inside the name of a variable. -/
def isNameChar (c : Char) : Bool :=
  ('a' ≤ c && c ≤ 'z') || ('A' ≤ c && c ≤ 'Z') || ('0' ≤ c && c ≤ '9') || c == '_' || c == '.'

/-- The character may begin the name of a variable. -/
def isNameStart (c : Char) : Bool := isNameChar c && c != '.' && !c.isDigit

/-- The name of a variable, and what follows it and the white space after it. -/
def name? (s : List Char) : Option (List Char × List Char) :=
  match s with
  | c :: _ =>
    if isNameStart c then
      some (s.takeWhile isNameChar, (s.dropWhile isNameChar).dropWhile Text.isBlank)
    else none
  | [] => none

/-- The name assigned to and what follows the equals sign.  The word `export` may stand in
front. -/
def target? (s : List Char) : Option (List Char × List Char) :=
  match name? s with
  | none => none
  | some (name, '=' :: rest) => some (name, rest)
  | some (name, rest) =>
    if name = "export".toList then
      match name? rest with
      | some (name, '=' :: rest) => some (name, rest)
      | _ => none
    else none

/-- The meaning of a line. -/
inductive Line where
  | nothing
  | assignment (name value : String)
  | malformed
  deriving DecidableEq, Repr

/-- Reads a line in an environment. -/
def readLine (lookup : String → Option String) (line : List Char) : Line :=
  let s := (Text.trimEnd line).dropWhile Text.isBlank
  if s = [] ∨ s.head? = some '#' then .nothing
  else match target? s with
    | none => .malformed
    | some (name, rest) =>
      let rest := rest.dropWhile Text.isBlank
      if rest = [] ∨ rest.head? = some '#' then .assignment (String.ofList name) ""
      else match Value.read? lookup {} rest with
        | some value => .assignment (String.ofList name) (String.ofList value)
        | none => .malformed

/-- The value of a variable in a list of variables; the first one of a name counts. -/
def lookup (known : List (String × String)) (name : String) : Option String :=
  (known.find? (·.1 == name)).map (·.2)

/-- Adds the assignments of lines to the variables, up to the first malformed line. -/
def loadLines (known : List (String × String)) :
    List (Option (List Char)) → List (String × String)
  | [] => known
  | none :: _ => known
  | some line :: rest =>
    match readLine (lookup known) line with
    | .nothing => loadLines known rest
    | .assignment name value => loadLines (known ++ [(name, value)]) rest
    | .malformed => known

/-- The text of a file without a byte order mark in front. -/
def dropMark : List Char → List Char
  | '\uFEFF' :: rest => rest
  | s => s

/-- The variables of an environment together with those of a file. -/
def load (known : List (String × String)) (text : String) : List (String × String) :=
  loadLines known (lines .plain [] (physicalLines (dropMark text.toList)))

end CoreBroker.EnvFile

namespace CoreBroker.BrokerSettings

/-- The settings that an environment and a file of further variables give. -/
def ofEnvironment (known : List (String × String)) (file : String) :
    Except String BrokerSettings :=
  ofVariables (EnvFile.lookup (EnvFile.load known file))

end CoreBroker.BrokerSettings
