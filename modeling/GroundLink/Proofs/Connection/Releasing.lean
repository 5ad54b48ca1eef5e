import GroundLink.Connection.Subscription
import Mathlib.Data.List.Basic

/-!
# The life of a subscription

A subscription is polled and released by its consumer, and in between its connection changes in ways
that it knows nothing of: events are queued or are not to come any more, and the dispatcher stops.
Whatever happens, the subscription only goes over to states that may follow, and of all releases the
first one alone can cancel the call.

A subscription that is not subscribed any more is settled. It stays as it is, all it says is that it
is over, and it cancels nothing.
-/

namespace GroundLink.Connection

open Protocol

namespace Subscription

/-! ### Changes of state -/

/-- Goes over to another state, if that one may follow. -/
def turn? (next : SubscriptionState) (s : Subscription) : Option Subscription :=
  if s.state.mayBecome next then some { s with state := next } else none

/-- The next event. It fails where a state may not follow. -/
def poll? (s : Subscription) (ch : Channel) : Option (Found Update × Subscription × Channel) :=
  if s.state ≠ .subscribed then some (.over, s, ch)
  else match (ch.mailbox s.ticket).events with
    | u :: rest => some (.item u, s, s.keep rest ch)
    | [] =>
      if ch.mayDeliver s.ticket then some (.pending, s, ch)
      else (s.turn? .closed).map (.over, ·, ch)

/-- Lets a subscription go. It fails where a state may not follow, also one that is passed through:
a subscription is unsubscribing before it finds that the dispatcher has stopped. -/
def release? (s : Subscription) (ch : Channel) : Option (Subscription × Channel) :=
  if s.state ≠ .subscribed then some (s, ch)
  else
    let ch := ch.updateMailbox s.ticket fun m => { m with listening := false, events := [] }
    (s.turn? .unsubscribing).bind fun s =>
      if ch.isStopped then (s.turn? .closed).map (·, ch)
      else some (s, { ch with cancels := ch.cancels ++ [s.call] })

variable {s : Subscription}

lemma turn?_of_mayBecome {next : SubscriptionState} (h : s.state.mayBecome next = true) :
    s.turn? next = some { s with state := next } :=
  if_pos h

theorem poll?_eq (s : Subscription) (ch : Channel) : s.poll? ch = some (s.poll ch) := by
  unfold poll? poll
  split
  case isTrue => rfl
  case isFalse hstate =>
    have hsubscribed : s.state = .subscribed := not_not.mp hstate
    cases (ch.mailbox s.ticket).events with
    | cons u rest => rfl
    | nil =>
      dsimp only [await]
      split
      · rfl
      · rw [turn?_of_mayBecome (by rw [hsubscribed]; rfl), Option.map_some]

theorem release?_eq (s : Subscription) (ch : Channel) : s.release? ch = some (s.release ch) := by
  unfold release? release
  split
  case isTrue => rfl
  case isFalse hstate =>
    have hsubscribed : s.state = .subscribed := not_not.mp hstate
    rw [turn?_of_mayBecome (by rw [hsubscribed]; rfl)]
    dsimp only [Option.bind_some]
    split
    · rw [turn?_of_mayBecome rfl, Option.map_some]
    · rfl

/-! ### Polls and releases -/

lemma poll_of_settled (h : s.state ≠ .subscribed) (ch : Channel) : s.poll ch = (.over, s, ch) :=
  if_pos h

lemma release_of_settled (h : s.state ≠ .subscribed) (ch : Channel) : s.release ch = (s, ch) :=
  if_pos h

/-- A poll leaves a subscription as it is, unless it closes it. -/
lemma poll_cases (h : s.state = .subscribed) (ch : Channel) :
    ((s.poll ch).1 ≠ .over ∧ (s.poll ch).2.1 = s)
      ∨ ((s.poll ch).1 = .over ∧ (s.poll ch).2.1 = { s with state := .closed }) := by
  unfold poll
  rw [if_neg (not_not.mpr h)]
  cases (ch.mailbox s.ticket).events with
  | cons u rest => exact .inl ⟨nofun, rfl⟩
  | nil =>
    dsimp only [await]
    split
    · exact .inl ⟨nofun, rfl⟩
    · exact .inr ⟨rfl, rfl⟩

lemma cancels_poll (s : Subscription) (ch : Channel) : (s.poll ch).2.2.cancels = ch.cancels := by
  unfold poll
  split
  · rfl
  · cases (ch.mailbox s.ticket).events with
    | cons u rest => rfl
    | nil => rfl

/-- A release of a subscription that is subscribed cancels the call, unless the dispatcher has
stopped. -/
lemma release_cases (h : s.state = .subscribed) (ch : Channel) :
    (ch.isStopped = true ∧ (s.release ch).1 = { s with state := .closed }
        ∧ (s.release ch).2.cancels = ch.cancels)
      ∨ (ch.isStopped = false ∧ (s.release ch).1 = { s with state := .unsubscribing }
        ∧ (s.release ch).2.cancels = ch.cancels ++ [s.call]) := by
  unfold release
  rw [if_neg (not_not.mpr h)]
  cases hstopped : ch.isStopped with
  | true =>
    have hquiet : (ch.updateMailbox s.ticket
      fun m => { m with listening := false, events := [] }).isStopped = true := hstopped
    dsimp only
    rw [if_pos hquiet]
    exact .inl ⟨rfl, rfl, rfl⟩
  | false =>
    have hquiet : (ch.updateMailbox s.ticket
      fun m => { m with listening := false, events := [] }).isStopped = false := hstopped
    dsimp only
    rw [hquiet, if_neg Bool.false_ne_true]
    exact .inr ⟨rfl, rfl, rfl⟩

end Subscription

/-! ### Lives -/

/-- A subscription, and its connection as it is at the moment. -/
structure Holding where
  sub : Subscription
  channel : Channel

namespace Holding

/-- One thing that happens in the life of a subscription. -/
inductive Move where
  | poll
  /-- The consumer releases it, or drops it, which releases it as well; so a subscription that has
  been released is released once more. -/
  | release
  /-- Others act on the connection. -/
  | elsewhere (ch : Channel)

def move (m : Move) (h : Holding) : Holding :=
  match m with
  | .poll => ⟨(h.sub.poll h.channel).2.1, (h.sub.poll h.channel).2.2⟩
  | .release => ⟨(h.sub.release h.channel).1, (h.sub.release h.channel).2⟩
  | .elsewhere ch => ⟨h.sub, ch⟩

/-- A move, which fails where the subscription goes over to a state that may not follow. -/
def move? (m : Move) (h : Holding) : Option Holding :=
  match m with
  | .poll => (h.sub.poll? h.channel).map fun r => ⟨r.2.1, r.2.2⟩
  | .release => (h.sub.release? h.channel).map fun r => ⟨r.1, r.2⟩
  | .elsewhere ch => some ⟨h.sub, ch⟩

/-- The cancels that the subscription itself queues with a move. -/
def queues (m : Move) (h : Holding) : List CallId :=
  match m with
  | .elsewhere _ => []
  | .poll | .release => (h.move m).channel.cancels.drop h.channel.cancels.length

def play : List Move → Holding → Holding
  | [], h => h
  | m :: ms, h => play ms (h.move m)

def play? : List Move → Holding → Option Holding
  | [], h => some h
  | m :: ms, h => (h.move? m).bind (play? ms)

/-- All cancels that the subscription queues with some moves. -/
def queued : List Move → Holding → List CallId
  | [], _ => []
  | m :: ms, h => h.queues m ++ queued ms (h.move m)

/-- What a poll finds. -/
def finds (h : Holding) : Found Update := (h.sub.poll h.channel).1

variable {h : Holding}

lemma move?_eq (m : Move) (h : Holding) : h.move? m = some (h.move m) := by
  cases m with
  | poll => rw [move?, Subscription.poll?_eq, Option.map_some, move]
  | release => rw [move?, Subscription.release?_eq, Option.map_some, move]
  | elsewhere ch => rfl

/-- No move is refused. -/
lemma play?_eq (ms : List Move) (h : Holding) : h.play? ms = some (h.play ms) := by
  induction ms generalizing h with
  | nil => rfl
  | cons m ms ih => rw [play?, move?_eq, Option.bind_some, ih, play]

lemma queued_append (ms ms' : List Move) (h : Holding) :
    h.queued (ms ++ ms') = h.queued ms ++ (h.play ms).queued ms' := by
  induction ms generalizing h with
  | nil => rfl
  | cons m ms ih => rw [List.cons_append, queued, ih, queued, play, List.append_assoc]

/-! ### Steps -/

/-- Whether nothing more becomes of a subscription. -/
def Settled (h : Holding) : Prop := h.sub.state ≠ .subscribed

lemma Settled.finds (hs : h.Settled) : h.finds = .over := by
  rw [Holding.finds, Subscription.poll_of_settled hs]

lemma Settled.sub_move (hs : h.Settled) (m : Move) : (h.move m).sub = h.sub := by
  cases m with
  | poll => rw [move, Subscription.poll_of_settled hs]
  | release => rw [move, Subscription.release_of_settled hs]
  | elsewhere ch => rfl

lemma Settled.queues (hs : h.Settled) (m : Move) : h.queues m = [] := by
  cases m with
  | poll => simp [Holding.queues, move, Subscription.poll_of_settled hs]
  | release => simp [Holding.queues, move, Subscription.release_of_settled hs]
  | elsewhere ch => rfl

lemma queues_poll (h : Holding) : h.queues .poll = [] := by
  simp [queues, move, Subscription.cancels_poll]

lemma queues_release (hstate : h.sub.state = .subscribed) :
    h.queues .release = if h.channel.isStopped then [] else [h.sub.call] := by
  rcases Subscription.release_cases hstate h.channel with
    ⟨hstopped, -, hcancels⟩ | ⟨hstopped, -, hcancels⟩
  · simp [queues, move, hcancels, hstopped]
  · simp [queues, move, hcancels, hstopped]

/-- With the release a subscription is settled. -/
lemma settled_release (h : Holding) : (h.move .release).Settled := by
  by_cases hstate : h.sub.state = .subscribed
  · rcases Subscription.release_cases hstate h.channel with ⟨-, hsub, -⟩ | ⟨-, hsub, -⟩ <;>
      simp [Settled, move, hsub]
  · rwa [Settled, Settled.sub_move hstate]

lemma call_move (m : Move) (h : Holding) : (h.move m).sub.call = h.sub.call := by
  by_cases hstate : h.sub.state = .subscribed
  · cases m with
    | poll => rcases Subscription.poll_cases hstate h.channel with ⟨-, hsub⟩ | ⟨-, hsub⟩ <;>
        simp [move, hsub]
    | release =>
      rcases Subscription.release_cases hstate h.channel with ⟨-, hsub, -⟩ | ⟨-, hsub, -⟩ <;>
        simp [move, hsub]
    | elsewhere ch => rfl
  · rw [Settled.sub_move hstate]

/-! ### Runs -/

lemma call_play (ms : List Move) (h : Holding) : (h.play ms).sub.call = h.sub.call := by
  induction ms generalizing h with
  | nil => rfl
  | cons m ms ih => rw [play, ih, call_move]

/-- Nothing becomes of a subscription that is settled. -/
theorem Settled.play (hs : h.Settled) (ms : List Move) :
    (h.play ms).sub = h.sub ∧ h.queued ms = [] := by
  induction ms generalizing h with
  | nil => exact ⟨rfl, rfl⟩
  | cons m ms ih =>
    have hsub := hs.sub_move m
    have hmoved : (h.move m).Settled := by rwa [Settled, hsub]
    obtain ⟨hplay, hqueued⟩ := ih hmoved
    rw [Holding.play, queued, hs.queues, hplay, hsub, hqueued]
    exact ⟨rfl, rfl⟩

/-- Of all releases one at most cancels the call. -/
theorem queued_sublist (ms : List Move) (h : Holding) : (h.queued ms).Sublist [h.sub.call] := by
  induction ms generalizing h with
  | nil => exact List.nil_sublist _
  | cons m ms ih =>
    have hlater := ih (h.move m)
    rw [call_move] at hlater
    by_cases hstate : h.sub.state = .subscribed
    · rw [queued]
      cases m with
      | poll => rwa [queues_poll]
      | elsewhere ch => exact hlater
      | release =>
        rw [(h.settled_release.play ms).2, queues_release hstate, List.append_nil]
        split
        · exact List.nil_sublist _
        · exact List.Sublist.refl _
    · rw [(Settled.play hstate _).2]
      exact List.nil_sublist _

/-- A subscription that has not been released is subscribed or closed, and has cancelled nothing. -/
lemma play_of_notMem {ms : List Move} (hms : .release ∉ ms)
    (hstate : h.sub.state = .subscribed ∨ h.sub.state = .closed) :
    ((h.play ms).sub.state = .subscribed ∨ (h.play ms).sub.state = .closed)
      ∧ h.queued ms = [] := by
  induction ms generalizing h with
  | nil => exact ⟨hstate, rfl⟩
  | cons m ms ih =>
    rw [List.mem_cons, not_or] at hms
    rw [play, queued]
    cases m with
    | release => exact absurd rfl hms.1
    | elsewhere ch => exact ih hms.2 hstate
    | poll =>
      rw [queues_poll, List.nil_append]
      refine ih hms.2 ?_
      rcases hstate with hstate | hstate
      · rcases Subscription.poll_cases hstate h.channel with ⟨-, hsub⟩ | ⟨-, hsub⟩
        · exact .inl (by rw [move, hsub, hstate])
        · exact .inr (by rw [move, hsub])
      · have hs : h.Settled := by rw [Settled, hstate]; nofun
        exact .inr (by rw [hs.sub_move, hstate])

/-- A subscription that has said that it is over is settled. -/
lemma settled_poll (hover : h.finds = .over) : (h.move .poll).Settled := by
  by_cases hstate : h.sub.state = .subscribed
  · rcases Subscription.poll_cases hstate h.channel with ⟨hfinds, -⟩ | ⟨-, hsub⟩
    · exact absurd hover hfinds
    · simp [Settled, move, hsub]
  · rwa [Settled, Settled.sub_move hstate]

lemma closed_poll (hstate : h.sub.state = .subscribed ∨ h.sub.state = .closed)
    (hover : h.finds = .over) : (h.move .poll).sub.state = .closed := by
  rcases hstate with hstate | hstate
  · rcases Subscription.poll_cases hstate h.channel with ⟨hfinds, -⟩ | ⟨-, hsub⟩
    · exact absurd hover hfinds
    · rw [move, hsub]
  · have hs : h.Settled := by rw [Settled, hstate]; nofun
    rw [hs.sub_move, hstate]

/-- Whatever happens to a subscription that has been opened, none of its changes of state is
refused, and it cancels its call at most once: exactly once if it is released while it is subscribed
and the dispatcher has not stopped. A poll that finds it over does so for good: the subscription
stays as it is, all later polls find it over, and it cancels nothing more. If it has not been
released before, it is closed, and nothing is cancelled at all. -/
theorem life (call : CallId) (topic : Topic) (ticket : Ticket) (ch : Channel) (ms : List Move) :
    let h : Holding := ⟨.opened call topic ticket, ch⟩
    h.play? ms = some (h.play ms)
      ∧ (h.queued ms).Sublist [call]
      ∧ (∀ before after, ms = before ++ .release :: after →
        (h.play before).sub.state = .subscribed → (h.play before).channel.isStopped = false →
        h.queued ms = [call])
      ∧ ∀ before after, ms = before ++ .poll :: after → (h.play before).finds = .over →
        let ended := (h.play before).move .poll
        (.release ∉ before → ended.sub.state = .closed ∧ h.queued ms = [])
          ∧ ended.queued after = []
          ∧ ∀ later more, after = later ++ more →
            (ended.play later).sub = ended.sub ∧ (ended.play later).finds = .over := by
  intro h
  refine ⟨play?_eq ms h, queued_sublist ms h, ?_, ?_⟩
  · rintro before after hms hstate hrunning
    have hcall : (h.play before).sub.call = call := call_play before h
    have hmem : call ∈ h.queued ms := by
      rw [hms, queued_append, queued, queues_release hstate, hrunning, hcall]
      simp
    exact (queued_sublist ms h).eq_of_length_le (List.length_pos_of_mem hmem)
  · rintro before after hms hover ended
    have hended : ended.Settled := settled_poll hover
    refine ⟨fun hkept => ?_, (hended.play after).2, fun later more _ => ?_⟩
    · obtain ⟨hstate, hnone⟩ := play_of_notMem (h := h) hkept (.inl rfl)
      refine ⟨closed_poll hstate hover, ?_⟩
      rw [hms, queued_append, hnone, queued, queues_poll, (hended.play after).2]
      rfl
    · have hsub := (hended.play later).1
      have hlater : (ended.play later).Settled := by rwa [Settled, hsub]
      exact ⟨hsub, hlater.finds⟩

/-- A subscription that is released twice cancels its call once. One that has found its end before
does not. -/
theorem life_released :
    (Holding.mk (.opened ⟨5⟩ .time ⟨0⟩) (.start 4 64)).queued [.release, .release] = [⟨5⟩]
      ∧ (Holding.mk (.opened ⟨5⟩ .time ⟨0⟩) (.start 4 64)).finds = .over
      ∧ (Holding.mk (.opened ⟨5⟩ .time ⟨0⟩) (.start 4 64)).queued [.poll, .release] = [] := by
  obtain ⟨-, -, hreleased, -⟩ := life ⟨5⟩ .time ⟨0⟩ (.start 4 64) [.release, .release]
  obtain ⟨-, -, -, hended⟩ := life ⟨5⟩ .time ⟨0⟩ (.start 4 64) [.poll, .release]
  exact ⟨hreleased [] [.release] rfl rfl rfl, rfl,
    ((hended [] [.release] rfl rfl).1 List.not_mem_nil).2⟩

end Holding

end GroundLink.Connection
