import GroundLink.Proofs.Connection.Viewing
import GroundLink.Proofs.Connection.Yielding

/-!
# Streams and their queues

A stream takes updates out of the queue of its subscription until one of them makes an item. What it
has emitted is what its viewer shows of the updates that it has taken.
-/

namespace GroundLink.Connection

open Protocol

variable {t : Ticket} {v : Viewer} {st : Stream} {ch : Channel} {read arrived : List Update}
  {E : List Item}

/-! ### What is found -/

namespace Found

variable {α : Type}

/-- The item that a consumer has found. -/
def item? : Found α → Option α
  | .item a => some a
  | _ => none

/-- What a consumer finds, by whether there is an item, and whether more may come. -/
def next : Option α → Bool → Found α
  | some a, _ => .item a
  | none, true => .pending
  | none, false => .over

end Found

/-! ### Looking for the next item -/

lemma Subscription.takenEvents_keep {sub : Subscription} {taken rest : List Update}
    (hevents : (ch.mailbox sub.ticket).events = taken ++ rest) :
    takenEvents sub.ticket ch (sub.keep rest ch) = taken := by
  have hkept := sub.keep_events rest ch (by rw [hevents]; exact List.suffix_append ..)
  simp [takenEvents, hevents, hkept]

/-- What comes of a look for the next item. -/
inductive Stream.Polls (st : Stream) (ch : Channel) : Found Item × Stream × Channel → Prop
  /-- The first item has been waiting. -/
  | first {item : Item} :
      st.waiting = some item → Polls st ch (.item item, { st with waiting := none }, ch)
  | ended : st.waiting = none → st.subscription.state ≠ .subscribed → Polls st ch (.over, st, ch)
  | item {item : Item} {taken rest : List Update} :
      st.waiting = none → st.subscription.state = .subscribed →
      (ch.mailbox st.subscription.ticket).events = taken ++ rest →
      st.viewer.outputs taken = [item] →
      Polls st ch (.item item, { st with viewer := st.viewer.after taken },
        st.subscription.keep rest ch)
  /-- Nothing in the queue makes an item. -/
  | dry {events : List Update} :
      st.waiting = none → st.subscription.state = .subscribed →
      (ch.mailbox st.subscription.ticket).events = events → st.viewer.outputs events = [] →
      Polls st ch ((st.subscription.await ch).1,
        { st with
          viewer := st.viewer.after events
          subscription := (st.subscription.await (α := Item) ch).2 },
        st.subscription.keep [] ch)

lemma Stream.polls (st : Stream) (ch : Channel) : st.Polls ch (st.poll ch) := by
  unfold poll
  split
  case h_1 item hitem => exact .first hitem
  case h_2 hwaiting =>
    split
    case isTrue hstate => exact .ended hwaiting hstate
    case isFalse hstate =>
      cases hnext : st.viewer.next (ch.mailbox st.subscription.ticket).events with
      | mk item? more =>
        obtain ⟨v', rest⟩ := more
        cases item? with
        | some item =>
          obtain ⟨taken, hevents, houtputs, rfl⟩ := Viewer.next_of_some hnext
          exact .item hwaiting (not_not.mp hstate) hevents houtputs
        | none =>
          obtain ⟨rfl, houtputs, rfl⟩ := Viewer.next_of_none hnext
          exact .dry hwaiting (not_not.mp hstate) rfl houtputs

/-! ### Progress of a stream -/

/-- How far a stream has come that has taken some updates out of its queue. -/
inductive Progress (v : Viewer) (st : Stream) (read : List Update) : List Item → Prop
  /-- It has not emitted its first item. -/
  | before {item : Item} :
      st.waiting = some item → v.first? = some item → st.viewer = v → read = [] →
      Progress v st read []
  /-- It has shown all that it has taken. -/
  | behind : st.waiting = none → st.viewer = v.after read → Progress v st read (v.shown read)

namespace Progress

lemma start (v : Viewer) (sub : Subscription) : Progress v (.start sub v) [] [] := by
  cases hfirst : v.first? with
  | none =>
    have hshown : v.shown [] = [] := by rw [Viewer.shown, hfirst]; rfl
    have hbehind : Progress v (.start sub v) [] (v.shown []) := .behind hfirst rfl
    rwa [hshown] at hbehind
  | some item => exact .before hfirst hfirst rfl rfl

/-- What has been emitted is shown by what has been taken. -/
lemma emitted_shown (hp : Progress v st read E) : E <+: v.shown read := by
  cases hp with
  | before => exact List.nil_prefix
  | behind => exact List.prefix_rfl

/-- Whatever a stream takes out of its queue, it shows. -/
lemma poll (hp : Progress v st read E) (ch : Channel) (ht : st.subscription.ticket = t) :
    Progress v (st.poll ch).2.1 (read ++ takenEvents t ch (st.poll ch).2.2)
      (E ++ (st.poll ch).1.item?.toList) := by
  subst ht
  have hpolls := st.polls ch
  generalize st.poll ch = result at hpolls ⊢
  cases hp with
  | @before first hwaiting hfirst hviewer hread =>
    cases hpolls with
    | @first item hitem =>
      obtain rfl : first = item := Option.some.inj (hwaiting.symm.trans hitem)
      have hshown : v.shown [] = [first] := by rw [Viewer.shown, hfirst]; rfl
      have hbehind : Progress v { st with waiting := none } [] (v.shown []) := behind rfl hviewer
      rw [hshown] at hbehind
      rw [hread, Subscription.takenEvents_self]
      exact hbehind
    | ended hnone | item hnone | dry hnone => cases hwaiting.symm.trans hnone
  | behind hwaiting hviewer =>
    cases hpolls with
    | first hitem => cases hwaiting.symm.trans hitem
    | ended =>
      have hnone : (Found.over (α := Item)).item?.toList = [] := rfl
      rw [Subscription.takenEvents_self, List.append_nil, hnone, List.append_nil]
      exact behind hwaiting hviewer
    | @item item taken rest _ _ hevents houtputs =>
      have hshown : v.shown (read ++ taken) = v.shown read ++ [item] := by
        rw [Viewer.shown_append, ← hviewer, houtputs]
      rw [Subscription.takenEvents_keep hevents, Found.item?, Option.toList_some, ← hshown]
      refine behind hwaiting ?_
      rw [Viewer.after_append, ← hviewer]
    | @dry events _ _ hevents houtputs =>
      have hshown : v.shown (read ++ events) = v.shown read := by
        rw [Viewer.shown_append, ← hviewer, houtputs, List.append_nil]
      have hnone : (st.subscription.await (α := Item) ch).1.item? = none := by
        unfold Subscription.await
        split <;> rfl
      rw [Subscription.takenEvents_keep (by rw [hevents, List.append_nil]), hnone,
        Option.toList_none, List.append_nil, ← hshown]
      refine behind hwaiting ?_
      rw [Viewer.after_append, ← hviewer]

end Progress

/-! ### What is next -/

/-- A stream with its queue: what has arrived has been taken, or waits there. -/
structure Supplied (v : Viewer) (st : Stream) (ch : Channel) (arrived : List Update)
    (E : List Item) : Prop where
  progress : ∃ read, Progress v st read E
    ∧ read ++ (ch.mailbox st.subscription.ticket).events = arrived
  /-- It ends where the dispatcher has stopped, and not before. -/
  subscribed : st.subscription.state = .subscribed →
    ch.mayDeliver st.subscription.ticket = !ch.isStopped
  ended : st.subscription.state ≠ .subscribed →
    ch.isStopped = true ∧ (ch.mailbox st.subscription.ticket).events = []

namespace Supplied

/-- A stream emits the next of the items that what has arrived shows. -/
lemma found (hs : Supplied v st ch arrived E) :
    (st.poll ch).1 = .next (v.shown arrived)[E.length]? !ch.isStopped := by
  obtain ⟨⟨read, hprogress, harrived⟩, hsubscribed, hended⟩ := hs
  have hpolls := st.polls ch
  generalize st.poll ch = result at hpolls ⊢
  -- All that has arrived is shown where the queue makes no more items.
  have hall : ∀ {events}, (ch.mailbox st.subscription.ticket).events = events →
      st.waiting = none → st.viewer.outputs events = [] → (v.shown arrived)[E.length]? = none := by
    intro events hevents hwaiting houtputs
    cases hprogress with
    | before hitem => cases hwaiting.symm.trans hitem
    | behind _ hviewer =>
      rw [← harrived, hevents, Viewer.shown_append, ← hviewer, houtputs, List.append_nil]
      exact List.getElem?_eq_none le_rfl
  cases hpolls with
  | @first item hitem =>
    cases hprogress with
    | before hwaiting hfirst =>
      obtain rfl := Option.some.inj (hwaiting.symm.trans hitem)
      rw [Viewer.shown, hfirst]
      rfl
    | behind hwaiting => cases hwaiting.symm.trans hitem
  | ended hwaiting hstate =>
    obtain ⟨hstop, hevents⟩ := hended hstate
    rw [hall hevents hwaiting rfl, hstop]
    rfl
  | @item item taken rest hwaiting _ hevents houtputs =>
    cases hprogress with
    | before hitem => cases hwaiting.symm.trans hitem
    | behind _ hviewer =>
      have hshown : v.shown arrived
          = v.shown read ++ item :: (st.viewer.after taken).outputs rest := by
        rw [← harrived, hevents, Viewer.shown_append, ← hviewer, Viewer.outputs_append, houtputs]
        rfl
      rw [hshown, List.getElem?_append_right le_rfl, Nat.sub_self]
      rfl
  | dry hwaiting hstate hevents houtputs =>
    rw [hall hevents hwaiting houtputs, Subscription.await, hsubscribed hstate]
    cases ch.isStopped <;> rfl

/-- It is a stream with its queue again. -/
lemma poll (hs : Supplied v st ch arrived E) :
    Supplied v (st.poll ch).2.1 (st.poll ch).2.2 arrived (E ++ (st.poll ch).1.item?.toList) := by
  obtain ⟨⟨read, hprogress, harrived⟩, hsubscribed, hended⟩ := hs
  have hmore := hprogress.poll ch rfl
  have hpolls := st.polls ch
  generalize st.poll ch = result at hpolls hmore ⊢
  have hqueue : ∀ {taken rest}, (ch.mailbox st.subscription.ticket).events = taken ++ rest →
      (read ++ takenEvents st.subscription.ticket ch (st.subscription.keep rest ch))
        ++ ((st.subscription.keep rest ch).mailbox st.subscription.ticket).events = arrived := by
    intro taken rest hevents
    rw [Subscription.takenEvents_keep hevents,
      st.subscription.keep_events rest ch (by rw [hevents]; exact List.suffix_append ..),
      List.append_assoc, ← hevents, harrived]
  cases hpolls with
  | first | ended =>
    rw [Subscription.takenEvents_self, List.append_nil] at hmore
    exact ⟨⟨read, hmore, harrived⟩, hsubscribed, hended⟩
  | item _ hstate hevents =>
    exact ⟨⟨_, hmore, hqueue hevents⟩, hsubscribed, fun hnot => absurd hstate hnot⟩
  | @dry events _ hstate hevents =>
    have hqueue' := hqueue (hevents.trans (List.append_nil _).symm)
    have hempty := st.subscription.keep_events [] ch List.nil_suffix
    have hdeliver := hsubscribed hstate
    cases hstop : ch.isStopped with
    | false =>
      have hawait : st.subscription.await (α := Item) ch = (.pending, st.subscription) :=
        if_pos (by rw [hdeliver, hstop]; rfl)
      rw [hawait] at hmore ⊢
      exact ⟨⟨_, hmore, hqueue'⟩, hsubscribed, fun hnot => absurd hstate hnot⟩
    | true =>
      have hawait : st.subscription.await (α := Item) ch
          = (.over, { st.subscription with state := .closed }) :=
        if_neg (by rw [hdeliver, hstop]; simp)
      rw [hawait] at hmore ⊢
      exact ⟨⟨_, hmore, hqueue'⟩, by rintro ⟨⟩, fun _ => ⟨hstop, hempty⟩⟩

end Supplied

end GroundLink.Connection
