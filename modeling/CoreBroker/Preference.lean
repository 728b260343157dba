set_option autoImplicit false

/-!
# Locality preferences and constraints

A request for a core says where its core should run, and a source of cores says which requests it
is willing to serve.  `Constraint.admits` is the single rule that joins the two; everything that
counts, lists or reserves requests goes through it.
-/

namespace CoreBroker

/-- Where a request wants its core to run. -/
inductive Preference where
  /-- On this machine and nowhere else. -/
  | requireLocal
  /-- On this machine if possible, on a remote one otherwise. -/
  | preferLocal
  /-- On a remote machine if possible, on this one otherwise. -/
  | preferRemote
  deriving DecidableEq, Repr, Inhabited

namespace Preference

/-- Only a request that must run here counts as local; the other two are remotable. -/
def isLocal : Preference → Bool
  | requireLocal => true
  | preferLocal | preferRemote => false

/-- The spelling in data. -/
def word : Preference → String
  | requireLocal => "require_local"
  | preferLocal => "prefer_local"
  | preferRemote => "prefer_remote"

/-- The spelling in log and trace lines. -/
def label : Preference → String
  | requireLocal => "RequireLocal"
  | preferLocal => "PreferLocal"
  | preferRemote => "PreferRemote"

/-- Every preference. -/
def all : List Preference := [requireLocal, preferLocal, preferRemote]

/-- The preference spelled `s` in data. -/
def ofWord? (s : String) : Option Preference := all.find? (·.word == s)

theorem ofWord?_word (p : Preference) : ofWord? p.word = some p := by cases p <;> rfl

end Preference

/-- Which pending requests a source of cores is willing to look at. -/
inductive Constraint where
  /-- Every request. -/
  | all
  /-- Requests that require a local core. -/
  | localRequiredOnly
  /-- Requests that require or prefer a local core. -/
  | localRequiredAndPreferred
  /-- The remotable requests. -/
  | localPreferredAndRemote
  deriving DecidableEq, Repr, Inhabited

namespace Constraint

/-- Whether a request with preference `p` passes the constraint. -/
def admits : Constraint → Preference → Bool
  | all, _ => true
  | localRequiredOnly, .requireLocal => true
  | localRequiredOnly, _ => false
  | localRequiredAndPreferred, .preferRemote => false
  | localRequiredAndPreferred, _ => true
  | localPreferredAndRemote, p => !p.isLocal

/-- The spelling in data. -/
def word : Constraint → String
  | all => "all"
  | localRequiredOnly => "local_required_only"
  | localRequiredAndPreferred => "local_required_and_preferred"
  | localPreferredAndRemote => "local_preferred_and_remote"

/-- The spelling in log lines. -/
def label : Constraint → String
  | all => "All"
  | localRequiredOnly => "LocalRequiredOnly"
  | localRequiredAndPreferred => "LocalRequiredAndPreferred"
  | localPreferredAndRemote => "LocalPreferredAndRemote"

/-- Every constraint. -/
def every : List Constraint :=
  [all, localRequiredOnly, localRequiredAndPreferred, localPreferredAndRemote]

/-- The constraint spelled `s` in data. -/
def ofWord? (s : String) : Option Constraint := every.find? (·.word == s)

theorem ofWord?_word (c : Constraint) : ofWord? c.word = some c := by cases c <;> rfl

end Constraint

end CoreBroker
