import Waymark.OrderedMap

/-! # Shutting down

Long-running tasks subscribe to a signal. Signals are numbered in the order in which they are
sent, and the channel keeps the last one only: a subscriber that missed some learns how many,
and then reads the last. A subscriber never sees signals from before it subscribed. When the
channel closes, what is unread can still be read.
-/

namespace Waymark

/-- What a subscriber learns by polling. -/
inductive Poll where
  | signal
  /-- There is no signal. -/
  | empty
  /-- There is no signal, and none will come. -/
  | closed
  /-- Some signals were lost. -/
  | lagged (count : Nat)
deriving DecidableEq

/-- A channel for shutdown signals. -/
structure Shutdown where
  /-- How many signals were sent. -/
  sent : Nat
  /-- The number of the next signal that each subscriber has to read, by name. -/
  subscribers : OrderedMap String Nat
  /-- No more signals will come. -/
  closed : Bool
deriving DecidableEq

namespace Shutdown

/-- A new channel. -/
def open_ : Shutdown := ⟨0, .empty, false⟩

/-- The number of subscribers. -/
def count (s : Shutdown) : Nat := s.subscribers.size

/-- Subscribes under a name. An earlier subscription of that name ends. -/
def subscribe (s : Shutdown) (name : String) : Shutdown :=
  { s with subscribers := (s.subscribers.erase name).insert name s.sent }

/-- Whether there is a subscription of a name. -/
def isSubscribed (s : Shutdown) (name : String) : Bool := s.subscribers.contains name

/-- Ends the subscription of a name. -/
def unsubscribe (s : Shutdown) (name : String) : Shutdown :=
  { s with subscribers := s.subscribers.erase name }

/-- Sends a signal. -/
def trigger (s : Shutdown) : Shutdown := { s with sent := s.sent + 1 }

/-- Closes the channel. -/
def close (s : Shutdown) : Shutdown := { s with closed := true }

/-- How many signals a subscriber has not read, of which the last can still be read. -/
def unread (s : Shutdown) (name : String) : Nat :=
  match s.subscribers.get? name with
  | some next => s.sent - next
  | none => 0

/-- Reads a signal, if there is one, or learns how many were lost. -/
def poll (s : Shutdown) (name : String) : Poll × Shutdown :=
  match s.unread name with
  | 0 => (if s.closed then .closed else .empty, s)
  | 1 => (.signal, { s with subscribers := s.subscribers.insert name s.sent })
  | lost + 2 =>
      (.lagged (lost + 1), { s with subscribers := s.subscribers.insert name (s.sent - 1) })

end Shutdown

end Waymark
