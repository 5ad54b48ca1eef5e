import GroundLink.Proofs.Connection.Listening
import GroundLink.Proofs.Connection.Serving
import Mathlib.Algebra.BigOperators.Group.Finset.Piecewise

/-!
# Frames that are dropped

A listener that has fallen behind misses frames, and finds how many when it reads. Each reading is
made for one listener: by its consumer, or by the caller who looks for the server state. What it
has missed is counted at once, and nothing else changes that counter; so the counter is the sum of
what all listeners have missed.
-/

namespace GroundLink.Connection

open Protocol

variable {l : ListenerId} {s : System}

namespace Operation

lemma listener_of_readings {op : Operation} {ch : Channel} {r : Fanout.Reading}
    (hr : (l, r) ∈ op.readings ch) : op.listener? = some l := by
  cases op with
  | askState t l' =>
    simp only [readings] at hr
    split at hr
    · obtain ⟨r', -, heq⟩ := List.mem_map.mp hr
      exact congrArg (some ·.1) heq
    · cases hr
  | awaitState l' deadline =>
    obtain ⟨r', -, heq⟩ := List.mem_map.mp hr
    exact congrArg (some ·.1) heq
  | _ => cases hr

end Operation

/-- The dispatcher misses nothing. -/
lemma dropped_taking (lost : Bool) (t : Traffic) (frame : Frame) :
    (t.taking lost frame).dropped = t.dropped := by
  cases frame <;> cases lost <;> rfl

namespace System

/-- What is read with an act is read for the listener that it moves. -/
lemma moved_of_readings {a : Act} {r : Fanout.Reading} (hr : (l, r) ∈ s.readings a) :
    s.moved a = some l := by
  cases a with
  | look t =>
    simp only [readings] at hr
    split at hr
    case h_1 op hparty =>
      simp only [moved, hparty]
      exact Operation.listener_of_readings hr
    case h_2 => cases hr
  | hear l' =>
    simp only [readings] at hr
    split at hr
    case isTrue hl' =>
      obtain ⟨rfl, -⟩ := Prod.mk.inj (List.mem_singleton.mp hr)
      exact if_pos hl'
    case isFalse => cases hr
  | _ => cases hr

/-- What listeners miss with an act is counted. -/
theorem drops_act (a : Act) (s : System) :
    s.channel.Drops (Fanout.missed ((s.readings a).map (·.2))) (s.act a).channel := by
  by_cases ha : a = .dispatch
  · subst ha
    rw [act_dispatch_channel]
    cases htask : s.channel.task? with
    | none => exact .of_eq rfl
    | some task =>
      obtain ⟨lost, -, -, -, -, -, -, ⟨n, -, htraffic⟩, -⟩ := Channel.serves_perform htask
      have hdropped := congrArg Traffic.dropped htraffic
      refine hdropped.trans ?_
      cases task.text?.map Frame.decode with
      | none => exact (UInt64.add_zero _).symm
      | some frame => exact (dropped_taking ..).trans (UInt64.add_zero _).symm
  · exact (uses_act ha s).dropped

/-! ### Runs -/

/-- All that listeners miss is counted. -/
lemma drops_play (as : List Act) (s : System) :
    s.channel.Drops (Fanout.missed ((trace readings as s).map (·.2))) (s.play as).channel := by
  induction as generalizing s with
  | nil => exact .of_eq rfl
  | cons a as ih =>
    rw [trace, List.map_append, Fanout.missed_append]
    exact (drops_act a s).trans (ih (s.act a))

lemma Tuned.play (hs : s.Tuned) (as : List Act) : (s.play as).Tuned := by
  induction as generalizing s with
  | nil => exact hs
  | cons a as ih => exact ih (hs.act a)

lemma Tuned.nextListener_play (hs : s.Tuned) (as : List Act) :
    s.channel.fanout.nextListener ≤ (s.play as).channel.fanout.nextListener := by
  induction as generalizing s with
  | nil => exact le_rfl
  | cons a as ih => exact (hs.nextListener_act a).trans (ih (hs.act a))

lemma Tuned.val_of_readings (hs : s.Tuned) {a : Act} {r : Fanout.Reading}
    (hr : (l, r) ∈ s.readings a) : l.val < s.channel.fanout.nextListener := by
  have hmoved := moved_of_readings hr
  cases a with
  | look t =>
    obtain ⟨p, hp, hpl⟩ := Option.bind_eq_some_iff.mp hmoved
    exact (hs.asker t p l hp hpl).1
  | hear l' =>
    simp only [moved] at hmoved
    split at hmoved
    case isTrue hl' =>
      obtain rfl := Option.some.inj hmoved
      exact hs.listener l' hl'
    case isFalse => cases hmoved
  | _ => cases hr

/-- Only listeners that have come before read. -/
lemma Tuned.val_of_trace (hs : s.Tuned) (as : List Act) :
    ∀ p ∈ trace readings as s, p.1.val < (s.play as).channel.fanout.nextListener := by
  induction as using List.reverseRecOn with
  | nil => nofun
  | append_singleton as a ih =>
    intro p hp
    have hplay := hs.play as
    have hnext := hplay.nextListener_act a
    rw [trace_append_singleton, List.mem_append] at hp
    rw [play_append_singleton]
    rcases hp with hp | hp
    · exact (ih p hp).trans_le hnext
    · exact (hplay.val_of_readings hp).trans_le hnext
/-! ### Listeners -/

lemma trace_append {α : Type} (f : Act → System → List α) (as bs : List Act) (s : System) :
    trace f (as ++ bs) s = trace f as s ++ trace f bs (s.play as) := by
  induction as generalizing s with
  | nil => rfl
  | cons a as ih => rw [List.cons_append, trace, ih, trace, List.append_assoc, System.play]

/-- What a listener finds with an act. -/
def readingsOf (l : ListenerId) (a : Act) (s : System) : List Fanout.Reading :=
  ((s.readings a).filter (·.1 = l)).map (·.2)

/-- What a listener finds with some acts. -/
def found (l : ListenerId) (as : List Act) (s : System) : List Fanout.Reading :=
  trace (readingsOf l) as s

lemma found_eq_filter (l : ListenerId) (as : List Act) (s : System) :
    found l as s = ((trace readings as s).filter (·.1 = l)).map (·.2) := by
  induction as generalizing s with
  | nil => rfl
  | cons a as ih =>
    rw [found, trace, trace, List.filter_append, List.map_append, ← ih]
    rfl

lemma readingsOf_of_moved {a : Act} (hm : s.moved a ≠ some l) : s.readingsOf l a = [] := by
  rw [readingsOf, List.map_eq_nil_iff, List.filter_eq_nil_iff]
  rintro ⟨l', r⟩ hr hl'
  obtain rfl : l' = l := of_decide_eq_true hl'
  exact hm (moved_of_readings hr)

/-- A listener finds nothing before it has come. -/
lemma Tuned.found_eq_nil (hs : s.Tuned) {as : List Act}
    (hl : (s.play as).channel.fanout.nextListener ≤ l.val) : found l as s = [] := by
  rw [found_eq_filter, List.map_eq_nil_iff, List.filter_eq_nil_iff]
  rintro ⟨l', r⟩ hr hl'
  obtain rfl : l' = l := of_decide_eq_true hl'
  exact absurd (hs.val_of_trace as _ hr) (Nat.not_lt.mpr hl)

/-- What is missed is the sum of what each listener misses. -/
lemma missed_eq_sum {rs : List (ListenerId × Fanout.Reading)} {n : Nat}
    (hrs : ∀ p ∈ rs, p.1.val < n) :
    Fanout.missed (rs.map (·.2))
      = ∑ i ∈ Finset.range n, Fanout.missed ((rs.filter (·.1 = ⟨i⟩)).map (·.2)) := by
  induction rs with
  | nil => simp [Fanout.missed]
  | cons p rs ih =>
    have hhead : p.1.val ∈ Finset.range n := Finset.mem_range.mpr (hrs p List.mem_cons_self)
    have hone : ∀ i, Fanout.missed (((p :: rs).filter (·.1 = ⟨i⟩)).map (·.2))
        = (if p.1.val = i then p.2.skipped else 0)
          + Fanout.missed ((rs.filter (·.1 = ⟨i⟩)).map (·.2)) := by
      intro i
      by_cases hi : p.1 = ⟨i⟩
      · simp [hi, Fanout.missed]
      · have hval : p.1.val ≠ i := fun h => hi (congrArg ListenerId.mk h)
        simp [hi, hval, Fanout.missed]
    rw [List.map_cons, Fanout.missed, List.map_cons, List.sum_cons]
    rw [Finset.sum_congr rfl fun i _ => hone i, Finset.sum_add_distrib,
      Finset.sum_ite_eq, if_pos hhead, ← ih fun q hq => hrs q (List.mem_cons_of_mem p hq)]
    rfl

/-- The counter of dropped frames is the sum of what all listeners have missed. -/
theorem Tuned.dropped_play (hs : s.Tuned) (as : List Act) :
    (s.play as).channel.traffic.dropped = s.channel.traffic.dropped
      + .ofNat (∑ i ∈ Finset.range (s.play as).channel.fanout.nextListener,
        Fanout.missed (found ⟨i⟩ as s)) := by
  have hdrops := drops_play as s
  rw [Channel.Drops, missed_eq_sum (hs.val_of_trace as)] at hdrops
  simp only [found_eq_filter]
  exact hdrops

end System

end GroundLink.Connection
