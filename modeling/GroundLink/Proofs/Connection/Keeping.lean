import GroundLink.Proofs.Connection.Answering
import GroundLink.Proofs.Connection.Calls

/-!
# Calls that are kept, and calls that are lost

A call that the reply to a request for a subscription opens stays with the caller, then with the
consumer, and is cancelled when they leave. Nobody looks after a call whose caller leaves between
the handling of the reply and the moment when it would have taken it: the dispatcher has handed the
reply over, and there is no subscription yet that could be let go.
-/

namespace GroundLink.Connection

open Protocol

variable {h : List Note} {s : System}

/-- Somebody has a call or will get it, or the client cancels it of its own accord. -/
inductive System.Keeps (s : System) (h : List Note) (t : Ticket) (c : CallId) : Prop
  /-- A cancel is queued. -/
  | queued : c ∈ s.channel.cancels → s.Keeps h t c
  /-- A cancel has been written, or is being written. -/
  | cancelled {id : RequestId} : id ∈ cancelNumbers c h →
      ⟨id, .cancel c⟩ ∈ s.channel.written ++ s.channel.hand → s.Keeps h t c
  /-- Somebody holds a subscription. -/
  | held {p : Party} {sub : Subscription} : s.parties.find? t = some p →
      p.role = .consumer sub → sub.call = c → sub.state = .subscribed → s.Keeps h t c
  /-- A caller has the reply that opens the call in its mailbox. -/
  | awaited {p : Party} {x : Exchange} {r : Reply} : s.parties.find? t = some p →
      p.role = .caller x → (s.channel.mailbox t).waiting = true →
      (s.channel.mailbox t).reply = some r → r.rejection = none → r.call = some c → s.Keeps h t c

lemma Story.opened_of_answer {s : Story} {r : Reply} {c : CallId} (hanswer : s.answer = some r)
    (hrouted : s.routed = true) (hrejection : r.rejection = none) (hcall : r.call = some c) :
    s.opened = some c := by
  rw [opened, hanswer, hrouted, Option.bind_some, hrejection]
  exact hcall

lemma System.role_eq {t : Ticket} {r : Role} (hrole : s.ledger.role t = r) (hr : r ≠ .none) :
    ∃ p, s.parties.find? t = some p ∧ p.role = r := by
  change Party.roleOf (s.parties.find? t) = r at hrole
  cases hparty : s.parties.find? t with
  | none =>
    rw [hparty] at hrole
    exact absurd hrole.symm hr
  | some p =>
    rw [hparty] at hrole
    exact ⟨p, rfl, hrole⟩

section Kept

variable {τ : Nat} {t : Ticket} {c : CallId} (ht : Tended h s.ledger)
  (hopen : (story t h).opened = some c)

include ht hopen

/-- A call that is kept is not one whose caller has left the reply unread. -/
lemma System.Keeps.not_unread (hc : Correlated τ h s.ledger) (hd : CallsDistinct h)
    (hkeeps : s.Keeps h t c) : (story t h).ending ≠ some .unread := by
  intro hunread
  have hzero := ht.not_cancelled_of_unread hd hopen hunread
  rw [Ledger.cancelCount] at hzero
  cases hkeeps with
  | queued hmem =>
    have hpos : 0 < s.ledger.cancels.count c := List.count_pos_iff.mpr hmem
    omega
  | cancelled hid =>
    have hpos := List.length_pos_of_mem hid
    omega
  | held hparty hrole =>
    have hend := (ht.consumer t _ ((System.role_of_party hparty).trans hrole)).2.1
    cases hend.symm.trans hunread
  | awaited hparty hrole =>
    have hend := (hc.caller t _ ((System.role_of_party hparty).trans hrole)).ending
    cases hend.symm.trans hunread

/-- Where nobody has left, there is a caller with the reply or a consumer with the call. -/
lemma System.keeps_of_present (hc : Correlated τ h s.ledger)
    (hrunning : s.channel.isStopped = false) {r : Reply} (hanswer : (story t h).answer = some r)
    (hrejection : r.rejection = none) (hcall : r.call = some c)
    (hend : (story t h).ending = none) : s.Keeps h t c := by
  have hnumber := story_answered t h (by simp [hanswer])
  cases hrole : s.ledger.role t with
  | none => exact absurd hrole (ht.present t hnumber hend)
  | caller x =>
    obtain ⟨p, hparty, hp⟩ := System.role_eq hrole (by rintro ⟨⟩)
    have ha := hc.caller t x hrole
    exact .awaited hparty hp ha.waiting (ha.reply.trans hanswer) hrejection hcall
  | consumer sub =>
    obtain ⟨p, hparty, hp⟩ := System.role_eq hrole (by rintro ⟨⟩)
    obtain ⟨hopen', -, hstate⟩ := ht.consumer t sub hrole
    refine .held hparty hp (Option.some.inj (hopen'.symm.trans hopen)) ?_
    refine hstate.resolve_right fun hclosed => ?_
    rw [show s.ledger.stopped = false from hrunning] at hclosed
    cases hclosed.2

/-- Whoever has left has had the call cancelled. -/
lemma System.keeps_of_left (hn : Numbered h s.ledger) (hrunning : s.channel.isStopped = false)
    (hend : (story t h).ending ≠ none) (hread : (story t h).ending ≠ some .unread) :
    s.Keeps h t c := by
  have hcount := ht.cancelled hrunning t c hopen hend hread
  rw [Ledger.cancelCount] at hcount
  by_cases hmem : c ∈ s.channel.cancels
  · exact .queued hmem
  · have hzero : s.ledger.cancels.count c = 0 := List.count_eq_zero_of_not_mem hmem
    obtain ⟨id, hid⟩ := List.exists_mem_of_length_pos
      (by omega : 0 < (cancelNumbers c h).length)
    have hall : s.channel.written ++ s.channel.hand = numbered h := hn.running hrunning
    refine .cancelled hid ?_
    rw [hall]
    exact mem_numbered_of_cancelNumbers hid

end Kept

/-- In every run in which no two replies open the same call, while the dispatcher runs, a call that
the reply to a request for a subscription opens is kept or cancelled, except where the caller has
left with the reply unread: then nobody has the call, and the client does not cancel it. -/
theorem Run.calls_kept_iff {setting : Setting} {textRoom : Nat} (hrun : Run setting textRoom h s)
    (hlen : (numbered h).length ≤ UInt64.size) (hd : CallsDistinct h)
    (hrunning : s.channel.isStopped = false) {t : Ticket} {r : Reply} {c : CallId}
    (hrouted : (story t h).routed = true) (hreply : replyOf t h = some r)
    (hrejection : r.rejection = none) (hcall : r.call = some c) :
    s.Keeps h t c ↔ (story t h).ending ≠ some .unread := by
  obtain ⟨hsteps, -, -⟩ := hrun.steps
  have hc := correlated_of_steps hsteps hlen
  have ht := tended_of_steps hsteps hlen hd
  rw [← story_answer] at hreply
  have hopen := Story.opened_of_answer hreply hrouted hrejection hcall
  refine ⟨fun hkeeps => hkeeps.not_unread ht hopen hc hd, fun hread => ?_⟩
  by_cases hend : (story t h).ending = none
  · exact System.keeps_of_present ht hopen hc hrunning hreply hrejection hcall hend
  · exact System.keeps_of_left ht hopen (numbered_of_steps hsteps) hrunning hend hread

namespace System

/-- A request for a subscription, and the reply to it, which is handled. -/
def handedOver : List Act :=
  [.subscribe (.time "simulator" "realtime"), .look ⟨0⟩, .dispatch, .push (openingText 1 5),
    .dispatch]

def opening : Reply := ⟨some ⟨5⟩, some ⟨1⟩, none⟩

/-- The caller leaves with the reply unread. -/
def unread : List Act := handedOver ++ [.abandon ⟨0⟩]

end System

/-- A caller that has not looked yet keeps its call. -/
theorem Run.calls_kept_iff_handedOver :
    (numbered (System.plain.log System.handedOver)).length ≤ UInt64.size
      ∧ CallsDistinct (System.plain.log System.handedOver)
      ∧ (System.plain.play System.handedOver).channel.isStopped = false
      ∧ (story ⟨0⟩ (System.plain.log System.handedOver)).routed = true
      ∧ replyOf ⟨0⟩ (System.plain.log System.handedOver) = some System.opening
      ∧ (story ⟨0⟩ (System.plain.log System.handedOver)).ending ≠ some .unread
      ∧ (System.plain.play System.handedOver).Keeps (System.plain.log System.handedOver) ⟨0⟩
        ⟨5⟩ := by
  have hlen : (numbered (System.plain.log System.handedOver)).length ≤ UInt64.size := by
    decide +kernel
  have hd : CallsDistinct (System.plain.log System.handedOver) := by
    decide +kernel
  have hrunning : (System.plain.play System.handedOver).channel.isStopped = false := by
    decide +kernel
  have hrouted : (story ⟨0⟩ (System.plain.log System.handedOver)).routed = true := by
    decide +kernel
  have hreply : replyOf ⟨0⟩ (System.plain.log System.handedOver) = some System.opening := by
    decide +kernel
  have hread : (story ⟨0⟩ (System.plain.log System.handedOver)).ending ≠ some .unread := by
    decide +kernel
  refine ⟨hlen, hd, hrunning, hrouted, hreply, hread, ?_⟩
  exact ((Run.plain System.handedOver).calls_kept_iff hlen hd hrunning hrouted hreply rfl rfl).mpr
    hread

/-- A call is lost whose caller leaves between the handling of the reply and its own next look. The
dispatcher runs and has nothing to do, the events of the call are still routed to the caller, nobody
acts on its ticket, and neither is a cancel queued nor has one got a number. -/
theorem Run.call_lost :
    Run ⟨.default, .none⟩ 64 (System.plain.log System.unread) (System.plain.play System.unread)
      ∧ CallsDistinct (System.plain.log System.unread)
      ∧ (System.plain.play System.unread).channel.isStopped = false
      ∧ (System.plain.play System.unread).channel.task?.isNone
      ∧ (story ⟨0⟩ (System.plain.log System.unread)).opened = some ⟨5⟩
      ∧ (System.plain.play System.unread).channel.routes.find? ⟨5⟩ = some ⟨0⟩
      ∧ ¬(System.plain.play System.unread).Keeps (System.plain.log System.unread) ⟨0⟩ ⟨5⟩ := by
  have hcancels : (System.plain.play System.unread).channel.cancels = [] := by decide +kernel
  have hcancelled : cancelNumbers ⟨5⟩ (System.plain.log System.unread) = [] := by decide +kernel
  have hparty : (System.plain.play System.unread).parties.find? ⟨0⟩ = none := rfl
  refine ⟨Run.plain _, by decide +kernel, by decide +kernel, by decide +kernel, by decide +kernel,
    by decide +kernel, fun hkeeps => ?_⟩
  cases hkeeps with
  | queued hmem =>
    rw [hcancels] at hmem
    cases hmem
  | cancelled hid =>
    rw [hcancelled] at hid
    cases hid
  | held hp | awaited hp =>
    rw [hparty] at hp
    cases hp

end GroundLink.Connection
