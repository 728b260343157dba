set_option autoImplicit false

/-!
# Phrases

Log lines, trace lines and error messages mention requests.  A phrase keeps the mentioned request
apart from the wording around it, so that the same phrase can be shown with whatever names the
reader of the line gives to requests.
-/

namespace CoreBroker

/-- A piece of a phrase: fixed wording, or the place where a request is named. -/
inductive Piece (ι : Type) where
  | wording (text : String)
  | request (id : ι)
  deriving DecidableEq, Repr

/-- A text that may mention requests known by identifiers of type `ι`. -/
structure Phrase (ι : Type) where
  pieces : List (Piece ι)
  deriving DecidableEq, Repr

namespace Phrase

variable {ι : Type}

/-- A phrase that mentions no request. -/
def ofText (s : String) : Phrase ι := ⟨[.wording s]⟩

instance : Inhabited (Phrase ι) := ⟨⟨[]⟩⟩

instance : Coe String (Phrase ι) := ⟨ofText⟩

instance : Append (Phrase ι) := ⟨fun a b => ⟨a.pieces ++ b.pieces⟩⟩

/-- The phrase that is just the name of a request. -/
def naming (id : ι) : Phrase ι := ⟨[.request id]⟩

/-- The requests mentioned, from left to right. -/
def requests (p : Phrase ι) : List ι :=
  p.pieces.filterMap fun
    | .wording _ => none
    | .request id => some id

/-- The text of a phrase when requests are shown as `name` says. -/
def render (name : ι → String) (p : Phrase ι) : String :=
  p.pieces.foldl (fun text piece =>
    match piece with
    | .wording s => text ++ s
    | .request id => text ++ name id) ""

/-- The phrases in order, with `separator` between neighbours. -/
def joinWith (separator : String) : List (Phrase ι) → Phrase ι
  | [] => ⟨[]⟩
  | [p] => p
  | p :: q :: rest => p ++ ofText separator ++ joinWith separator (q :: rest)

end Phrase

end CoreBroker
