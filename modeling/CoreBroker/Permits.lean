set_option autoImplicit false

/-!
# Permits

A stock of permits handed out in the order of asking.  Those who ask hold a ticket.  A permit that
comes back goes to the first ticket in the queue, which keeps it until it is looked at.  Once the
stock is closed nobody gets a permit any more, though permits still come back.
-/

namespace CoreBroker

/-- A fair stock of permits; tickets are numbers. -/
structure Permits where
  free : Nat
  queue : List Nat := []
  /-- Tickets that were given a permit and have not been looked at since. -/
  granted : List Nat := []
  isClosed : Bool := false
  deriving DecidableEq, Repr, Inhabited

namespace Permits

/-- One permit comes back: the first in the queue gets it. -/
def giveBack (p : Permits) : Permits :=
  match p.queue with
  | [] => { p with free := p.free + 1 }
  | t :: rest => { p with queue := rest, granted := p.granted ++ [t] }

/-- `n` permits come back: the first in the queue get them, and what is left is free. -/
def giveBackMany (p : Permits) (n : Nat) : Permits :=
  { p with free := p.free + (n - p.queue.length), queue := p.queue.drop n
           granted := p.granted ++ p.queue.take n }

/-- A ticket is given up; a permit it was given comes back. -/
def withdraw (p : Permits) (ticket : Nat) : Permits :=
  if ticket ∈ p.granted then { p with granted := p.granted.erase ticket }.giveBack
  else { p with queue := p.queue.filter (· != ticket) }

/-- Closes the stock; those in the queue leave it empty-handed. -/
def close (p : Permits) : Permits := { p with isClosed := true, queue := [] }

/-- What a look at the stock with a ticket finds. -/
inductive Look where
  /-- The stock is closed. -/
  | refused (p : Permits)
  /-- Here is a permit. -/
  | got (p : Permits)
  /-- The ticket has joined the queue. -/
  | joined (p : Permits)
  /-- The ticket was in the queue and still is. -/
  | waiting
  deriving DecidableEq, Repr

/-- Looks at the stock with a ticket. -/
def look (p : Permits) (ticket : Nat) : Look :=
  if p.isClosed then .refused (p.withdraw ticket)
  else if ticket ∈ p.granted then .got { p with granted := p.granted.erase ticket }
  else if ticket ∈ p.queue then .waiting
  else if 0 < p.free then .got { p with free := p.free - 1 }
  else .joined { p with queue := p.queue ++ [ticket] }

end Permits

end CoreBroker
