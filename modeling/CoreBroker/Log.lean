import CoreBroker.Text.Phrase
set_option autoImplicit false

/-!
# Log lines

A log line has a severity, a message and named fields.  A listener takes the lines that are at least
as severe as it asks for.
-/

namespace CoreBroker.Log

/-- What is shown of a broker's own log unless asked otherwise. -/
def defaultFilter : String := "prometheus_core_pool=info"

/-- How severe a line is. -/
inductive Level where
  | error
  | warn
  | info
  | debug
  | trace
  deriving DecidableEq, Repr, Inhabited

namespace Level

/-- The most severe level has the least rank. -/
def rank : Level → Nat
  | error => 0
  | warn => 1
  | info => 2
  | debug => 3
  | trace => 4

/-- The level at the head of a line. -/
def label : Level → String
  | error => "ERROR"
  | warn => "WARN"
  | info => "INFO"
  | debug => "DEBUG"
  | trace => "TRACE"

/-- The level called `s`. -/
def ofWord? (s : String) : Option Level :=
  if s = "error" then some error
  else if s = "warn" then some warn
  else if s = "info" then some info
  else if s = "debug" then some debug
  else if s = "trace" then some trace
  else none

end Level

/-- A log line. -/
structure Line (ι : Type) where
  level : Level
  message : Phrase ι
  fields : List (String × Phrase ι) := []
  deriving DecidableEq, Repr

namespace Line

variable {ι : Type}

/-- The line as a phrase: level, message and fields with blanks between them. -/
def phrase (l : Line ι) : Phrase ι :=
  Phrase.joinWith " " (Phrase.ofText l.level.label :: l.message ::
    l.fields.map fun (name, value) => Phrase.ofText (name ++ "=") ++ value)

end Line

/-- What a line ends with once it reports a panic; anything that would follow is not kept. -/
def panicWord : List Char := "panicked".toList

/-- The text up to the first report of a panic, that report included. -/
def cutAfterPanic : List Char → List Char
  | [] => []
  | c :: rest =>
    if panicWord.isPrefixOf (c :: rest) then panicWord else c :: cutAfterPanic rest

/-- The text of a line as it is kept. -/
def keptText (text : String) : String := String.ofList (cutAfterPanic text.toList)

/-- Whether a listener that asks for `wanted` takes a line of severity `level`. -/
def isHeard (wanted : Option Level) (level : Level) : Bool :=
  match wanted with
  | none => false
  | some wanted => level.rank ≤ wanted.rank

end CoreBroker.Log
