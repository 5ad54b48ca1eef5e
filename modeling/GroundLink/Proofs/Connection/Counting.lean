import GroundLink.Proofs.Connection.Serving

/-!
# Counters of a run

The counters of a connection tell what the dispatcher has received and written, at any moment and
also once it has stopped, be it in the middle of a reply.
-/

namespace GroundLink.Connection

open Protocol

namespace System

lemma tells_play (setting : Setting) (textRoom : Nat) (as : List Act) :
    ((start setting textRoom).play as).channel.traffic.Tells
      ((trace received as (start setting textRoom)).map Frame.decode)
      ((start setting textRoom).play as).channel.written.length := by
  induction as using List.reverseRecOn with
  | nil => exact Traffic.tells_none
  | append_singleton as a ih =>
    obtain ⟨lost, n, dropped, hwritten, htraffic⟩ :=
      (moves_act a ((start setting textRoom).play as)).counted
    have hmore := (ih.takingAll lost
      ((received a ((start setting textRoom).play as)).map Frame.decode)).sending n dropped
    rw [Traffic.sent_takingAll] at hmore
    rw [play_append_singleton, trace_append_singleton, List.map_append, hwritten, htraffic]
    exact hmore

/-- In every run with fewer than 2 ^ 64 texts in each direction, the counters tell at any moment,
and also once the dispatcher has stopped, how many texts have been received and what they were, and
how many have been written. -/
theorem counters_agree (setting : Setting) (textRoom : Nat) (as : List Act)
    (hreceived : (trace received as (start setting textRoom)).length < UInt64.size)
    (hsent : ((start setting textRoom).play as).channel.written.length < UInt64.size) :
    ((start setting textRoom).play as).channel.traffic.Counts
      (trace received as (start setting textRoom))
      ((start setting textRoom).play as).channel.written.length :=
  (tells_play setting textRoom as).counts hreceived hsent

/-- Texts of all sorts come, and the last one is a reply that opens a call for a caller who has
left. It is to be cancelled, but nobody reads any more. -/
def countingActs : List Act :=
  [.subscribe (.links "sim"), .look ⟨0⟩, .dispatch, .abandon ⟨0⟩, .push "[", .dispatch,
    .push "\x7b\x7d", .dispatch, .push stateText, .dispatch, .push (eventText 9 1), .dispatch,
    .push (rejectingText 7), .dispatch, .push "[", .dispatch, .cutWriter,
    .push (openingText 1 5), .dispatch]

theorem counters_agree_cutOff :
    ((start ⟨.default, .none⟩ 64).play countingActs).channel.isStopped = true
      ∧ ((start ⟨.default, .none⟩ 64).play countingActs).channel.traffic
        = ⟨1, 7, 2, 1, 1, 1, 1, 3, 0, [("invalid_json", 2), ("missing_type", 1)]⟩
      ∧ ((start ⟨.default, .none⟩ 64).play countingActs).channel.traffic.Counts
        (trace received countingActs (start ⟨.default, .none⟩ 64))
        ((start ⟨.default, .none⟩ 64).play countingActs).channel.written.length := by
  refine ⟨by decide +kernel, by decide +kernel, ?_⟩
  exact counters_agree ⟨.default, .none⟩ 64 countingActs (by decide +kernel) (by decide +kernel)

end System

end GroundLink.Connection
