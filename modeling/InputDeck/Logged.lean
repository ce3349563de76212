import InputDeck.Event

namespace InputDeck

/-- A result and what was logged on the way to it, oldest first. -/
structure Logged (α : Type u) where
  result : α
  events : List Event := []

namespace Logged

def map (f : α → β) (r : Logged α) : Logged β :=
  { result := f r.result, events := r.events }

/-- Goes on from the result of `r`, whose events come first. -/
def bind (r : Logged α) (f : α → Logged β) : Logged β :=
  { result := (f r.result).result, events := r.events ++ (f r.result).events }

/-- The same result, with `event` logged before everything else. -/
def after (event : Event) (r : Logged α) : Logged α :=
  { r with events := event :: r.events }

end Logged

end InputDeck
