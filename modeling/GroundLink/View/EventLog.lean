import GroundLink.Model.Event

/-!
# The event log

Events in the order of their arrival, earlier history first. A window keeps the latest of them.
-/

namespace GroundLink.View

open Model

/-- Events, and how many of them are kept at most. -/
structure EventLog where
  events : List Event
  window : Option Nat
deriving Inhabited

namespace EventLog

/-- The latest items of a list, as many as a window has room for. -/
def latest {α : Type} (window : Option Nat) (items : List α) : List α :=
  match window with
  | none => items
  | some size => items.drop (items.length - size)

/-- Adds an event. -/
def push (log : EventLog) (event : Event) : EventLog :=
  { log with events := latest log.window (log.events ++ [event]) }

/-- The log of earlier history. -/
def ofHistory (window : Option Nat) (prior : List Event) : EventLog := prior.foldl push ⟨[], window⟩

/-- The number of events. -/
def size (log : EventLog) : Nat := log.events.length

/-- Whether there are no events. -/
def isEmpty (log : EventLog) : Bool := log.events.isEmpty

@[simp] theorem window_push (log : EventLog) (event : Event) :
    (log.push event).window = log.window := rfl

@[simp] theorem latest_none {α : Type} (items : List α) : latest none items = items := rfl

theorem length_latest_some {α : Type} (size : Nat) (items : List α) :
    (latest (some size) items).length = min size items.length := by
  simp only [latest, List.length_drop]
  omega

end EventLog

end GroundLink.View
