import GroundLink.Proofs.Connection.Dropping
import GroundLink.Proofs.Connection.Settling

/-!
# What becomes of the frames for a listener

From the moment when a listener comes, it is owed every frame that the dispatcher sends. A reading
takes frames off what it is owed, from the front: it misses those that are not held any more, and
finds the next one. So at any moment each frame that has been sent since it came has been found by
it, has been missed and counted, or is still owed.

A frame is sent only after the dispatcher has done everything that its text asks for, and so no
listener finds it before.
-/

namespace GroundLink.Connection

open Protocol View.EventLog

variable {f f' : Fanout} {l : ListenerId} {own : Option ListenerId} {backlog taken : List Frame}
  {frame : Frame} {rs : List Fanout.Reading} {s : System}

namespace Fanout

/-! ### What a listener is owed -/

/-- How many of the frames that have been sent a listener has neither taken nor missed. -/
def behind (l : ListenerId) (f : Fanout) : Nat :=
  match f.listeners.find? l with
  | some position => f.count - position
  | none => 0

/-- A listener has yet to take or to miss some frames, the latest of which are held for it. -/
structure Owes (l : ListenerId) (backlog : List Frame) (f : Fanout) : Prop where
  listens : (f.listeners.find? l).isSome
  held : f.unheard l = latest (some capacity) backlog
  behind : f.behind l = backlog.length

lemma owes_listen (hf : f.Sound) : f.listen.1.Owes ⟨f.nextListener⟩ [] where
  listens := by rw [listen, Table.find?_insert_self]; rfl
  held := unheard_listen hf
  behind := by
    rw [Fanout.behind, listen, Table.find?_insert_self]
    exact Nat.sub_self _

lemma Owes.isHeard (h : f.Owes l backlog) : f.isHeard = true := by
  obtain ⟨p, hp⟩ := Option.isSome_iff_exists.mp h.listens
  exact isHeard_of_find hp

lemma Owes.publish (h : f.Owes l backlog) (hf : f.Sound) (frame : Frame) :
    (f.publish frame).Owes l (backlog ++ [frame]) where
  listens := by rw [listeners_publish]; exact h.listens
  held := by rw [unheard_publish frame hf h.listens, h.held, latest_append]
  behind := by
    have hbehind := h.behind
    obtain ⟨p, hp⟩ := Option.isSome_iff_exists.mp h.listens
    have hposition := hf.position l p hp
    rw [publish_of_heard frame h.isHeard]
    simp only [Fanout.behind, hp, List.length_append, List.length_singleton] at hbehind ⊢
    omega

lemma Owes.publishAll (h : f.Owes l backlog) (hf : f.Sound) (frames : List Frame) :
    (frames.foldl (fun f frame => f.publish frame) f).Owes l (backlog ++ frames) := by
  induction frames generalizing f backlog with
  | nil => rwa [List.append_nil]
  | cons frame frames ih =>
    rw [List.append_cons]
    exact ih (h.publish hf frame) (sound_publish frame hf)

lemma Owes.keeps (h : f.Owes l backlog) (hkeeps : f.Keeps own f') (hl : own ≠ some l) :
    f'.Owes l backlog where
  listens := by rw [hkeeps.listeners l hl]; exact h.listens
  held := (hkeeps.unheard hl).trans h.held
  behind := by
    rw [Fanout.behind, hkeeps.listeners l hl, hkeeps.count]
    exact h.behind

/-! ### Readings -/

lemma skipped_read {p : Nat} (hp : f.listeners.find? l = some p) :
    (f.read l).1.skipped = f.oldest - p := by
  simp only [read, hp]
  split <;> rfl

lemma behind_read (l : ListenerId) (f : Fanout) :
    (f.read l).2.behind l
      = f.behind l - ((f.read l).1.skipped + (f.read l).1.frame?.toList.length) := by
  cases hp : f.listeners.find? l with
  | none => simp [read, behind, hp]
  | some p =>
    simp only [read, behind, hp]
    cases f.recent[p + (f.oldest - p) - f.oldest]? with
    | some frame =>
      simp only [Table.find?_insert_self, Reading.skipped, Reading.frame?, Option.toList_some,
        List.length_singleton]
      omega
    | none =>
      simp only [Table.find?_insert_self, Reading.skipped, Reading.frame?, Option.toList_none,
        List.length_nil]
      omega

lemma Reading.eq_frame {r : Reading} (hframe : r.frame? = some frame) :
    r = .frame r.skipped frame := by
  cases r with
  | frame n f =>
    cases hframe
    rfl
  | nothing n => cases hframe

lemma Reading.eq_nothing {r : Reading} (hframe : r.frame? = none) : r = .nothing r.skipped := by
  cases r with
  | frame n f => cases hframe
  | nothing n => rfl

/-- How many frames a listener misses is how many it is owed beyond those that are held. -/
lemma Owes.skipped (h : f.Owes l backlog) (hf : f.Sound) :
    (f.read l).1.skipped = backlog.length - capacity := by
  obtain ⟨p, hp⟩ := Option.isSome_iff_exists.mp h.listens
  have hposition := hf.position l p hp
  have hheld := hf.held
  have hbehind := h.behind
  have hlength := congrArg List.length h.held
  rw [skipped_read hp]
  simp only [Fanout.behind, unheard, hp, oldest, latest, List.length_drop] at hbehind hlength ⊢
  generalize capacity = room at hlength ⊢
  omega

/-- A listener takes the first of the frames that are held for it, and misses those before. -/
lemma Owes.read (h : f.Owes l backlog) (hf : f.Sound) :
    (backlog = [] ∧ (f.read l).1 = .nothing 0 ∧ (f.read l).2.Owes l [])
      ∨ ∃ lost frame rest, backlog = lost ++ frame :: rest
        ∧ (f.read l).1 = .frame lost.length frame ∧ (f.read l).2.Owes l rest := by
  obtain ⟨hframe, htail, hpresent⟩ := f.read_eq l
  have hskipped := h.skipped hf
  have hbehind := f.behind_read l
  rw [h.held] at hframe htail
  rw [h.behind, hskipped] at hbehind
  cases hlatest : latest (some capacity) backlog with
  | nil =>
    rw [hlatest] at hframe htail
    have hnil : backlog = [] := by
      have hpos : 0 < capacity := by decide
      rw [latest, List.drop_eq_nil_iff] at hlatest
      exact List.length_eq_zero_iff.mp (by omega)
    subst hnil
    refine .inl ⟨rfl, ?_, hpresent.mpr h.listens, htail, ?_⟩
    · rw [Reading.eq_nothing hframe, hskipped]
      rfl
    · rw [hbehind]
      exact Nat.zero_sub _
  | cons frame rest =>
    rw [hlatest] at hframe htail
    have hsplit : backlog = backlog.take (backlog.length - capacity) ++ frame :: rest := by
      rw [← hlatest]
      exact (List.take_append_drop ..).symm
    have hlost : (backlog.take (backlog.length - capacity)).length = backlog.length - capacity := by
      rw [List.length_take]
      omega
    have hlength : backlog.length = (backlog.length - capacity) + (rest.length + 1) := by
      have hall := congrArg List.length hsplit
      rwa [List.length_append, hlost, List.length_cons] at hall
    refine .inr ⟨_, frame, rest, hsplit, ?_, hpresent.mpr h.listens, ?_, ?_⟩
    · rw [Reading.eq_frame hframe, hskipped, hlost]
    · have hroom : rest.length - capacity = 0 := by omega
      rw [htail, List.tail_cons, latest, hroom, List.drop_zero]
    · rw [hbehind, hframe]
      simp only [List.head?_cons, Option.toList_some, List.length_singleton]
      omega

/-- Readings of a listener, and the frames that they take off those that are sent: each reading
takes a frame and those before it, which are missed, or it takes nothing. -/
inductive Takes : List Reading → List Frame → Prop
  | start : Takes [] []
  | frame {rs : List Reading} {taken : List Frame} (lost : List Frame) (frame : Frame) :
      Takes rs taken → Takes (rs ++ [.frame lost.length frame]) (taken ++ (lost ++ [frame]))
  | nothing {rs : List Reading} {taken : List Frame} :
      Takes rs taken → Takes (rs ++ [.nothing 0]) taken

/-- The frames that are found are among those that are taken, in their order. -/
lemma Takes.sublist (h : Takes rs taken) : (rs.filterMap Reading.frame?).Sublist taken := by
  induction h with
  | start => exact List.Sublist.refl _
  | frame lost frame _ ih =>
    rw [List.filterMap_append]
    exact ih.append (List.sublist_append_right lost [frame])
  | nothing _ ih =>
    rw [List.filterMap_append]
    exact (List.append_nil _).symm ▸ ih

/-- All others are missed. -/
lemma Takes.length (h : Takes rs taken) :
    (rs.filterMap Reading.frame?).length + missed rs = taken.length := by
  induction h with
  | start => rfl
  | frame lost frame _ ih =>
    have hframe : [Reading.frame lost.length frame].filterMap Reading.frame? = [frame] := rfl
    have hmissed : missed [.frame lost.length frame] = lost.length := rfl
    rw [List.filterMap_append, hframe, missed_append, hmissed, List.length_append,
      List.length_append, List.length_append, ← ih, List.length_singleton]
    omega
  | nothing _ ih =>
    have hnothing : [Reading.nothing 0].filterMap Reading.frame? = [] := rfl
    rw [List.filterMap_append, hnothing, List.append_nil, missed_append]
    exact ih
end Fanout

namespace System

/-! ### One listener -/

/-- The frame that a consumer gets from a listener with an act. -/
def yields (l : ListenerId) (a : Act) (s : System) : List Frame :=
  match a with
  | .hear l' => if l' = l ∧ l ∈ s.listeners then (s.channel.pollFrame l).1.item?.toList else []
  | _ => []

lemma readingsOf_hear (hl : l ∈ s.listeners) :
    s.readingsOf l (.hear l) = [(s.channel.fanout.read l).1] := by
  simp [readingsOf, readings, hl]

lemma item?_next {α : Type} (a : Option α) (more : Bool) : (Found.next a more).item? = a := by
  cases a with
  | some a => rfl
  | none => cases more <;> rfl

/-- A consumer gets the frames that its listener finds. -/
lemma Tuned.yields_eq (hs : s.Tuned) (hl : l ∈ s.listeners) (a : Act) :
    s.yields l a = (s.readingsOf l a).filterMap Fanout.Reading.frame? := by
  by_cases hm : s.moved a = some l
  · rcases hs.moved_listener hl hm with rfl | rfl
    · have hframe := (s.channel.fanout.read_eq l).1
      rw [readingsOf_hear hl, yields, if_pos ⟨rfl, hl⟩, (Channel.pollFrame_unheard l _).1,
        item?_next, ← hframe]
      cases (s.channel.fanout.read l).1 <;> rfl
    · rfl
  · rw [readingsOf_of_moved hm]
    cases a with
    | hear l' =>
      refine if_neg ?_
      rintro ⟨rfl, hmem⟩
      exact hm (if_pos hmem)
    | _ => rfl

/-- A listener has taken the first of some settled frames with its readings, and is owed the others.
Of all frames that have been handled meanwhile one at most is not settled. -/
structure Attends (l : ListenerId) (settled handled : List Frame) (rs : List Fanout.Reading)
    (ch : Channel) : Prop where
  taken : ∃ taken backlog, settled = taken ++ backlog ∧ Fanout.Takes rs taken
    ∧ ch.fanout.Owes l backlog
  handled : ∃ rest, handled = settled ++ rest ∧ rest.length ≤ 1
    ∧ (ch.isStopped = false → rest = ch.flight.toList)

lemma handledFrames_of_stopped (hstop : s.channel.isStopped = true) (a : Act) :
    handledFrames (s.notes a) = [] := by
  by_cases ha : a = .dispatch
  · have htask : s.channel.task? = none := task?_of_stopped hstop .dispatch
    rw [ha, notes, doings, htask, act_dispatch_of_stopped hstop, Channel.stopNotes, hstop]
    rfl
  · exact handledFrames_notes ha s

variable {settled handled : List Frame}

/-- What one act does for a listener. -/
lemma Tuned.attends_act (hs : s.Tuned) (h : Attends l settled handled rs s.channel) {a : Act}
    (hl : l ∈ s.listeners) (hl' : l ∈ (s.act a).listeners) :
    Attends l (settled ++ s.settles a) (handled ++ handledFrames (s.notes a))
      (rs ++ s.readingsOf l a) (s.act a).channel where
  taken := by
    obtain ⟨taken, backlog, hsettled, htakes, howes⟩ := h.taken
    by_cases hdispatch : a = .dispatch
    · subst hdispatch
      have hnone : s.readingsOf l .dispatch = [] := rfl
      rw [hnone, List.append_nil]
      refine ⟨taken, backlog ++ s.settles .dispatch, ?_, htakes, ?_⟩
      · rw [hsettled, List.append_assoc]
      · rw [fanout_settled howes.isHeard]
        exact howes.publishAll hs.sound _
    · rw [settles_of_ne hdispatch, List.append_nil]
      by_cases hm : s.moved a = some l
      · rcases hs.moved_listener hl hm with rfl | rfl
        · have hfanout : (s.act (.hear l)).channel.fanout = (s.channel.fanout.read l).2 := by
            rw [System.act, if_pos hl]
            dsimp only
            rw [(Channel.pollFrame_unheard l s.channel).2, (Channel.readFrame_unheard l _).2]
          rw [readingsOf_hear hl, hfanout]
          rcases howes.read hs.sound with
            ⟨rfl, hread, howes'⟩ | ⟨lost, frame, rest, rfl, hread, howes'⟩
          · rw [hread]
            exact ⟨taken, [], hsettled, htakes.nothing, howes'⟩
          · rw [hread]
            refine ⟨taken ++ (lost ++ [frame]), rest, ?_, htakes.frame lost frame, howes'⟩
            rw [hsettled]
            simp
        · rw [System.act, if_pos hl] at hl'
          simp at hl'
      · rw [readingsOf_of_moved hm, List.append_nil]
        exact ⟨taken, backlog, hsettled, htakes, howes.keeps (adds_act hdispatch s).fanout hm⟩
  handled := by
    obtain ⟨rest, hhandled, hone, hwaits⟩ := h.handled
    obtain ⟨taken, backlog, -, -, howes⟩ := h.taken
    cases hrun : s.channel.isStopped with
    | true =>
      rw [handledFrames_of_stopped hrun, settles_of_stopped hrun, List.append_nil, List.append_nil]
      refine ⟨rest, hhandled, hone, fun hrun' => ?_⟩
      cases (isStopped_act hrun a).symm.trans hrun'
    | false =>
      obtain ⟨rest', hmore, hone', hwaits'⟩ := settles_handled howes.isHeard a
      refine ⟨rest', ?_, hone', hwaits'⟩
      rw [hhandled, hwaits hrun, List.append_assoc, hmore, List.append_assoc]

lemma Tuned.attends_play (hs : s.Tuned) (h : Attends l settled handled rs s.channel)
    (hl : l ∈ s.listeners) {as : List Act} (hl' : l ∈ (s.play as).listeners) :
    Attends l (settled ++ trace settles as s) (handled ++ handledFrames (s.log as))
        (rs ++ trace (readingsOf l) as s) (s.play as).channel
      ∧ trace (yields l) as s
        = (trace (readingsOf l) as s).filterMap Fanout.Reading.frame? := by
  induction as generalizing s settled handled rs with
  | nil =>
    have hsame : Attends l (settled ++ []) (handled ++ handledFrames []) (rs ++ []) s.channel := by
      rwa [handledFrames_nil, List.append_nil, List.append_nil, List.append_nil]
    exact ⟨hsame, rfl⟩
  | cons a as ih =>
    have hmem : l ∈ (s.act a).listeners :=
      (hs.act a).listener_of_play ((hs.listener l hl).trans_le (hs.nextListener_act a)) hl'
    obtain ⟨hplay, hyields⟩ := ih (hs.act a) (hs.attends_act h hl hmem) hmem hl'
    simp only [trace, log, handledFrames_append, List.filterMap_append, hs.yields_eq hl, hyields]
    rw [List.append_assoc, List.append_assoc, List.append_assoc] at hplay
    exact ⟨hplay, trivial⟩

/-- A listener that comes while no frame waits to be sent is owed nothing. -/
lemma Tuned.attends_listen (hs : s.Tuned) (hconnected : s.connected = true)
    (hidle : s.channel.flight = none) :
    Attends s.channel.listen.1 [] [] [] (s.act .listen).channel
      ∧ s.channel.listen.1 ∈ (s.act .listen).listeners := by
  rw [System.act, System.listen, if_pos hconnected]
  refine ⟨⟨⟨[], [], rfl, .start, Fanout.owes_listen hs.sound⟩, [], rfl, Nat.zero_le _, ?_⟩,
    List.mem_cons_self⟩
  intro _
  have hflight : s.channel.listen.2.flight = none := hidle
  rw [hflight]
  rfl

/-- In every run, and at any moment of it, a listener that has come while no frame waited to be sent
has got frames that have been settled since, in their order; and all that have been settled since
are those, those that it has missed, and those that it is still owed. Its readings take the settled
frames one after another, so what it has missed it has not got. What is counted as dropped is the
sum of what all listeners have missed. All frames handled since are settled, but for the last one
while its handling is not through, or if the dispatcher has stopped with it. And a frame is sent
once everything has been done that its text asks for. -/
theorem frames_accounted (setting : Setting) (textRoom : Nat) (before after : List Act)
    (hconnected : ((start setting textRoom).play before).connected = true)
    (hidle : ((start setting textRoom).play before).channel.flight = none)
    (hlistens : ((start setting textRoom).play before).channel.listen.1
      ∈ ((start setting textRoom).play (before ++ .listen :: after)).listeners) :
    let first := start setting textRoom
    let l := (first.play before).channel.listen.1
    let opened := (first.play before).act .listen
    let acts := before ++ .listen :: after
    let s := first.play acts
    let settled := trace settles after opened
    let yielded := trace (yields l) after opened
    yielded.Sublist settled
      ∧ yielded.length + Fanout.missed (found l acts first) + s.channel.fanout.behind l
        = settled.length
      ∧ (∃ taken backlog, settled = taken ++ backlog ∧ Fanout.Takes (found l acts first) taken
        ∧ yielded = (found l acts first).filterMap Fanout.Reading.frame?)
      ∧ s.channel.traffic.dropped = .ofNat (∑ i ∈ Finset.range s.channel.fanout.nextListener,
        Fanout.missed (found ⟨i⟩ acts first))
      ∧ (∃ rest, handledFrames (opened.log after) = settled ++ rest ∧ rest.length ≤ 1
        ∧ (s.channel.isStopped = false → rest = s.channel.flight.toList))
      ∧ ∀ pre a post, after = pre ++ a :: post → ∀ frame ∈ (opened.play pre).settles a,
        (opened.play pre).channel.Finishes frame ((opened.play pre).act a).channel := by
  intro first l opened acts s settled yielded
  have hfirst : first.Tuned := tuned_start setting textRoom
  have hbefore : (first.play before).Tuned := hfirst.play before
  have hopened : opened.Tuned := hbefore.act .listen
  have hplay : s = opened.play after := play_append before (.listen :: after) first
  have hmem : l ∈ (opened.play after).listeners := by rwa [← hplay]
  obtain ⟨hstart, hl⟩ := hbefore.attends_listen hconnected hidle
  obtain ⟨⟨⟨taken, backlog, hsettled, htakes, howes⟩, hhandled⟩, hyields⟩ :=
    hopened.attends_play hstart hl hmem
  -- The listener has found nothing before it has come.
  have hfound : found l acts first = trace (readingsOf l) after opened := by
    have hnone : trace (readingsOf l) before first = [] := hfirst.found_eq_nil le_rfl
    rw [found, trace_append, hnone]
    rfl
  rw [List.nil_append] at hsettled hhandled htakes
  rw [← hfound] at htakes hyields
  have hyielded : yielded = (found l acts first).filterMap Fanout.Reading.frame? := hyields
  refine ⟨?_, ?_, ⟨taken, backlog, hsettled, htakes, hyielded⟩, ?_, ?_, ?_⟩
  · rw [hyielded]
    have hall : taken.Sublist settled := by
      rw [show settled = taken ++ backlog from hsettled]
      exact List.sublist_append_left ..
    exact htakes.sublist.trans hall
  · rw [hyielded, htakes.length, hplay, howes.behind, ← List.length_append, ← hsettled]
  · exact (hfirst.dropped_play acts).trans (UInt64.zero_add _)
  · rw [hplay]
    exact hhandled
  · rintro pre a post rfl frame hframe
    have hnext := (hopened.listener l hl).trans_le (hopened.nextListener_play pre)
    have hthere : l ∈ (opened.play pre).listeners := by
      rw [play_append] at hmem
      exact (hopened.play pre).listener_of_play hnext hmem
    obtain ⟨⟨⟨_, _, _, _, howes'⟩, -⟩, -⟩ := hopened.attends_play hstart hl hthere
    exact finishes_of_settles howes'.isHeard hframe

/-- Two texts more come than are held for a listener, and then it is read once. -/
def lagging : List Act := (List.replicate 258 [.push "[", .dispatch]).flatten ++ [.hear ⟨0⟩]

/-- The listener of `lagging` has missed two frames and got one, and is owed the others. -/
theorem frames_accounted_lagging :
    plain.connected = true ∧ plain.channel.flight = none
      ∧ plain.channel.listen.1 ∈ (plain.play (.listen :: lagging)).listeners
      ∧ (plain.play (.listen :: lagging)).channel.traffic.dropped = 2
      ∧ (plain.play (.listen :: lagging)).channel.fanout.behind ⟨0⟩ = 255
      ∧ (trace (yields ⟨0⟩) lagging (plain.act .listen)).Sublist
        (trace settles lagging (plain.act .listen)) := by
  have hlistens : plain.channel.listen.1 ∈ (plain.play (.listen :: lagging)).listeners := by
    decide +kernel
  exact ⟨rfl, rfl, hlistens, by decide +kernel, by decide +kernel,
    (frames_accounted ⟨.default, .none⟩ 64 [] lagging rfl rfl hlistens).1⟩

end System

end GroundLink.Connection
