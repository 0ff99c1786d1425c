/-!
# The shutdown broadcast

A trigger reaches everyone who listens at that moment. The channel keeps only
the latest trigger: a listener that missed more than one is told how many
before it hears the latest. A trigger nobody listens to is not kept.
-/

namespace RadioLinks

/-- What a listener hears when it asks. -/
inductive Heard where
  | fired
  | empty
  | lagged (missed : Nat)
  | closed
  deriving DecidableEq, Repr

def Heard.text : Heard → String
  | fired => "fired"
  | empty => "empty"
  | lagged missed => "lagged " ++ toString missed
  | closed => "closed"

/-- A broadcast channel. Each listener is kept with the number of triggers that
were sent before the next one it is to hear. -/
structure Broadcast where
  sent : Nat := 0
  listeners : List (String × Nat) := []
  deriving DecidableEq, Repr, Inhabited

namespace Broadcast

def listening (channel : Broadcast) : Nat := channel.listeners.length

def drop (channel : Broadcast) (name : String) : Broadcast :=
  { channel with listeners := channel.listeners.filter (·.1 != name) }

/-- Listen from now on. An earlier listener of the same name is dropped. -/
def subscribe (channel : Broadcast) (name : String) : Broadcast :=
  let others := channel.drop name
  { others with listeners := others.listeners ++ [(name, channel.sent)] }

def trigger (channel : Broadcast) : Broadcast :=
  if channel.listeners.isEmpty then channel else { channel with sent := channel.sent + 1 }

/-- Move a listener to a later place. -/
def moveTo (channel : Broadcast) (name : String) (place : Nat) : Broadcast :=
  { channel with
    listeners := channel.listeners.map fun listener =>
      if listener.1 == name then (name, place) else listener }

/-- Ask without waiting. Nobody is behind a name that does not listen. -/
def poll (channel : Broadcast) (name : String) : Heard × Broadcast :=
  match channel.listeners.lookup name with
  | none => (.closed, channel)
  | some place =>
      if channel.sent ≤ place then (.empty, channel)
      else if place + 1 < channel.sent then
        (.lagged (channel.sent - place - 1), channel.moveTo name (channel.sent - 1))
      else (.fired, channel.moveTo name (place + 1))

end Broadcast

end RadioLinks
