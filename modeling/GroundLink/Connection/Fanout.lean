import GroundLink.Connection.Table
import GroundLink.Protocol.Frame

/-!
# Fan-out

Every listener is to see every frame. The latest frames are held for all of them; a listener that
falls behind further than that skips to the oldest one held.
-/

namespace GroundLink.Connection

open Protocol

/-- The name of a listener. -/
structure ListenerId where
  val : Nat
deriving DecidableEq, Repr, Inhabited

/-- The latest frames, the oldest one first, and what each listener reads next. -/
structure Fanout where
  /-- How many frames there have been. -/
  count : Nat
  recent : List Frame
  /-- How many of all frames come before the next one of a listener. -/
  listeners : Table ListenerId Nat
  nextListener : Nat
deriving Inhabited

namespace Fanout

/-- How many frames are held. -/
def capacity : Nat := 256

/-- The fan-out before any frame. -/
def start : Fanout := ⟨0, [], [], 0⟩

/-- Whether anybody listens. -/
def isHeard (f : Fanout) : Bool := !f.listeners.isEmpty

/-- A new listener, which reads what comes from now on. -/
def listen (f : Fanout) : Fanout × ListenerId :=
  let id : ListenerId := ⟨f.nextListener⟩
  ({ f with
      listeners := f.listeners.insert id f.count
      nextListener := f.nextListener + 1 }, id)

/-- Lets a listener go. -/
def leave (id : ListenerId) (f : Fanout) : Fanout := { f with listeners := f.listeners.erase id }

/-- Sends a frame to all listeners; without any it is gone. -/
def publish (frame : Frame) (f : Fanout) : Fanout :=
  if f.isHeard then
    let all := f.recent ++ [frame]
    { f with count := f.count + 1, recent := all.drop (all.length - capacity) }
  else f

/-- The number of the oldest frame held. -/
def oldest (f : Fanout) : Nat := f.count - f.recent.length

/-- What a listener finds. -/
inductive Reading where
  /-- A frame, after some that it has missed. -/
  | frame (skipped : Nat) (frame : Frame)
  /-- Nothing new, after some frames that it has missed. -/
  | nothing (skipped : Nat)

/-- The next frame of a listener. -/
def read (id : ListenerId) (f : Fanout) : Reading × Fanout :=
  match f.listeners.find? id with
  | none => (.nothing 0, f)
  | some position =>
    let skipped := f.oldest - position
    let next := position + skipped
    match f.recent[next - f.oldest]? with
    | some frame => (.frame skipped frame, { f with listeners := f.listeners.insert id (next + 1) })
    | none => (.nothing skipped, { f with listeners := f.listeners.insert id next })

end Fanout

end GroundLink.Connection
