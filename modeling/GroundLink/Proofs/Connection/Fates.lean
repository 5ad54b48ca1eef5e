import GroundLink.Proofs.Connection.Correlation

/-!
# What comes of replies

The dispatcher tracks a request in one of two tables, by whether it has been swept since its caller
left. What comes of a reply depends on the request and on its caller, and not on the table: a caller
who waits gets it, the call that it opens for a caller who has left is cancelled, and every other
reply is passed over.
-/

namespace GroundLink.Connection

open Protocol

namespace Channel

/-! ### Without the tables -/

/-- A channel whose dispatcher tracks no requests. -/
def untracked (ch : Channel) : Channel := { ch with pending := [], abandoned := [] }

section

variable (ch : Channel)

@[simp] lemma untracked_stop : ch.stop.untracked = ch.untracked.stop := rfl

@[simp] lemma untracked_sweep : ch.sweep.untracked = ch.untracked := rfl

@[simp] lemma untracked_publish (frame : Option Frame) :
    (publish frame ch).untracked = publish frame ch.untracked := by
  cases frame <;> rfl

@[simp] lemma untracked_write (r : NumberedRequest) (frame : Option Frame) :
    (write r frame ch).untracked = write r frame ch.untracked := by
  rw [write, apply_ite untracked, apply_ite untracked, untracked_publish]
  rfl

@[simp] lemma untracked_expect (id : RequestId) (w : Option Waiter) :
    (expect id w ch).untracked = ch.untracked := by
  cases w <;> rfl

@[simp] lemma untracked_cancel (c : CallId) (frame : Option Frame) :
    (cancel c frame ch).untracked = cancel c frame ch.untracked :=
  untracked_write ..

@[simp] lemma untracked_answer (t : Ticket) (reply : Reply) :
    (answer t reply ch).untracked = answer t reply ch.untracked := rfl

@[simp] lemma untracked_openRoute (c : Option CallId) (t : Ticket) :
    (openRoute c t ch).untracked = openRoute c t ch.untracked := by
  cases c <;> rfl

@[simp] lemma untracked_handleEvent (u : Update) :
    (handleEvent u ch).untracked = handleEvent u ch.untracked := by
  cases hfind : ch.routes.find? u.call with
  | none =>
    have hfind' : ch.untracked.routes.find? u.call = none := hfind
    simp only [handleEvent, hfind, hfind']
    rfl
  | some t =>
    have hfind' : ch.untracked.routes.find? u.call = some t := hfind
    simp only [handleEvent, hfind, hfind', apply_ite untracked]
    rfl

/-- A request is sent, and what nobody waits for is forgotten. -/
lemma untracked_send (request : Request) (w : Option Waiter) :
    (send request w ch).untracked
      = write ⟨ch.nextId, request⟩ none { ch.untracked with nextId := ch.nextId.next } := by
  rw [send, untracked_write, untracked_expect]
  rfl

end

/-! ### Fates -/

/-- What comes of a reply to a number. -/
inductive Fate where
  /-- A caller waits for it. -/
  | answers (w : Waiter)
  /-- The call that it opens is cancelled. -/
  | cancels
  | nothing
deriving DecidableEq

/-- What comes of a reply to a number, by the tables. -/
def fate (ch : Channel) (id : RequestId) : Fate :=
  match ch.pending.find? id with
  | some w =>
    if (ch.mailbox w.ticket).waiting then .answers w
    else if w.routed then .cancels
    else .nothing
  | none => if id ∈ ch.abandoned then .cancels else .nothing

/-- What comes of a reply, if it is to a number. -/
def fateOf (ch : Channel) (reply : Reply) : Fate := (reply.request.map ch.fate).getD .nothing

/-- Takes a reply by what is to come of it. -/
def respond (f : Fate) (reply : Reply) (frame : Option Frame) (ch : Channel) : Channel :=
  match f with
  | .answers w => publish frame (answer w.ticket reply (openRoute (opened? w reply) w.ticket ch))
  | .cancels => match accepted reply with
    | some c => cancel c frame ch
    | none => publish frame ch
  | .nothing => publish frame ch

/-- A route that is opened and closed at once leaves no trace. -/
lemma cancel_openRoute (c : CallId) (t : Ticket) (frame : Option Frame) (ch : Channel) :
    cancel c frame (openRoute (some c) t ch) = cancel c frame ch := by
  have hroutes : (ch.routes.insert c t).erase c = ch.routes.erase c := by
    simp [Table.insert, Table.erase]
  simp only [cancel, openRoute, hroutes]

lemma opened_eq_accepted {w : Waiter} (hw : w.routed = true) (reply : Reply) :
    opened? w reply = accepted reply := by
  simp [opened?, accepted, hw]

lemma opened_of_unrouted {w : Waiter} (hw : w.routed = false) (reply : Reply) :
    opened? w reply = none := by
  simp [opened?, hw]

lemma untracked_resolve {id : RequestId} {w : Waiter} (reply : Reply) (frame : Option Frame)
    (ch : Channel) (hfind : ch.pending.find? id = some w) :
    (resolve id w reply frame ch).untracked = respond (ch.fate id) reply frame ch.untracked := by
  have hfate : ch.fate id = if (ch.mailbox w.ticket).waiting then .answers w
      else if w.routed then .cancels else .nothing := by
    rw [fate, hfind]
  have hmailbox := (openRoute_eq (opened? w reply) w.ticket
    { ch with pending := ch.pending.erase id }).2.2.2
  rw [resolve, hmailbox, hfate]
  change untracked (if (ch.mailbox w.ticket).waiting then _ else _) = _
  by_cases hwaiting : (ch.mailbox w.ticket).waiting = true
  · rw [if_pos hwaiting, if_pos hwaiting, untracked_publish, untracked_answer, untracked_openRoute]
    rfl
  · rw [if_neg hwaiting, if_neg hwaiting]
    cases hrouted : w.routed with
    | true =>
      rw [opened_eq_accepted hrouted, if_pos rfl, respond]
      cases accepted reply with
      | none => exact untracked_publish ..
      | some c =>
        dsimp only
        rw [cancel_openRoute]
        exact untracked_cancel ..
    | false =>
      rw [opened_of_unrouted hrouted]
      exact untracked_publish ..

lemma untracked_resolveLate (reply : Reply) (frame : Option Frame) (ch : Channel)
    (hnone : ∀ id, reply.request = some id → ch.pending.find? id = none) :
    (resolveLate reply frame ch).untracked
      = respond (ch.fateOf reply) reply frame ch.untracked := by
  unfold resolveLate fateOf
  cases hid : reply.request with
  | none => exact untracked_publish ..
  | some id =>
    have hfate : ch.fate id = if id ∈ ch.abandoned then .cancels else .nothing := by
      rw [fate, hnone id hid]
    dsimp only [Option.map_some, Option.getD_some]
    rw [hfate]
    by_cases hmem : id ∈ ch.abandoned
    · rw [if_pos (List.elem_iff.mpr hmem), if_pos hmem, respond, accepted]
      cases reply.rejection with
      | some e => exact untracked_publish ..
      | none => cases reply.call with
        | none => exact untracked_publish ..
        | some c => exact untracked_cancel ..
    · rw [if_neg (fun helem => hmem (List.elem_iff.mp helem)), if_neg hmem]
      exact untracked_publish ..

/-- A reply is taken by its fate alone. -/
theorem untracked_handleReply (reply : Reply) (frame : Option Frame) (ch : Channel) :
    (handleReply reply frame ch).untracked
      = respond (ch.fateOf reply) reply frame
        { ch.untracked with traffic := ch.traffic.countReply reply.rejection.isSome } := by
  unfold handleReply
  dsimp only
  split
  case h_1 id w hfind =>
    obtain ⟨id', hid, hw⟩ := Option.bind_eq_some_iff.mp hfind
    obtain ⟨w', hw', heq⟩ := Option.map_eq_some_iff.mp hw
    obtain ⟨rfl, rfl⟩ := Prod.mk.inj heq
    rw [fateOf, hid]
    exact untracked_resolve reply frame
      { ch with traffic := ch.traffic.countReply reply.rejection.isSome } hw'
  case h_2 hfind =>
    exact untracked_resolveLate reply frame
      { ch with traffic := ch.traffic.countReply reply.rejection.isSome } fun id hid => by
        simpa [hid] using hfind

end Channel

/-! ### Fates and stories -/

variable {τ : Nat} {h : List Note} {ρ : Ticket → Role} {ch : Channel} {id : RequestId}

namespace Channel

/-- A reply is for a caller who waits where it is the first one to the number of the caller. -/
theorem fate_eq_answers (hc : Correlated τ h (ch.ledger ρ)) (hrun : ch.isStopped = false)
    {w : Waiter} : ch.fate id = .answers w ↔ (story w.ticket h).number = some id
      ∧ (story w.ticket h).answer = none ∧ (story w.ticket h).routed = w.routed
      ∧ (ch.mailbox w.ticket).waiting = true := by
  constructor
  · intro hfate
    unfold fate at hfate
    split at hfate
    case h_1 w' hfind =>
      obtain ⟨hnumber, hrouted, hanswer, -⟩ := hc.pending id w' (Table.mem_of_find? hfind)
      split at hfate
      case isTrue hwaiting =>
        obtain rfl : w' = w := by injection hfate
        exact ⟨hnumber, hanswer, hrouted, hwaiting⟩
      case isFalse => split at hfate <;> cases hfate
    case h_2 => split at hfate <;> cases hfate
  · rintro ⟨hnumber, hanswer, hrouted, hwaiting⟩
    rcases hc.tracked hrun w.ticket id hnumber hanswer with hmem | ⟨hgone, -⟩
    · rw [hrouted] at hmem
      have hfind : ch.pending.find? id = some w := hc.find_of_mem hmem
      rw [fate, hfind]
      exact if_pos hwaiting
    · cases hwaiting.symm.trans hgone

/-- The call that a reply opens is cancelled where the reply is the first one to the number of a
caller who has left a subscription. -/
theorem fate_eq_cancels (hc : Correlated τ h (ch.ledger ρ)) (hrun : ch.isStopped = false) :
    ch.fate id = .cancels ↔ ∃ t, (story t h).number = some id ∧ (story t h).answer = none
      ∧ (story t h).routed = true ∧ (ch.mailbox t).waiting = false := by
  constructor
  · intro hfate
    unfold fate at hfate
    split at hfate
    case h_1 w hfind =>
      obtain ⟨hnumber, hrouted, hanswer, -⟩ := hc.pending id w (Table.mem_of_find? hfind)
      split at hfate
      case isTrue => cases hfate
      case isFalse hwaiting =>
        split at hfate
        case isTrue hw =>
          exact ⟨w.ticket, hnumber, hanswer, hrouted.trans hw, eq_false_of_ne_true hwaiting⟩
        case isFalse => cases hfate
    case h_2 =>
      split at hfate
      case isTrue hmem =>
        obtain ⟨t, hnumber, hrouted, hanswer, hgone⟩ := hc.abandoned id hmem
        exact ⟨t, hnumber, hanswer, hrouted, hgone⟩
      case isFalse => cases hfate
  · rintro ⟨t, hnumber, hanswer, hrouted, hgone⟩
    rcases hc.tracked hrun t id hnumber hanswer with hmem | ⟨-, habandoned⟩
    -- The request has not been swept.
    · have hfind : ch.pending.find? id = some ⟨t, (story t h).routed⟩ := hc.find_of_mem hmem
      rw [fate, hfind]
      simp [hgone, hrouted]
    -- It has been swept.
    · have hmem : id ∈ ch.abandoned := habandoned hrouted
      cases hfind : ch.pending.find? id with
      | none =>
        rw [fate, hfind]
        exact if_pos hmem
      | some w => exact absurd hmem (hc.pending id w (Table.mem_of_find? hfind)).2.2.2

/-- What comes of a reply is the same in channels with the same notes and the same callers. -/
theorem fate_congr {ρ' : Ticket → Role} {ch' : Channel} (hc : Correlated τ h (ch.ledger ρ))
    (hc' : Correlated τ h (ch'.ledger ρ')) (hrun : ch.isStopped = false)
    (hrun' : ch'.isStopped = false) (hmailbox : ch'.mailbox = ch.mailbox) (id : RequestId) :
    ch'.fate id = ch.fate id := by
  cases hfate : ch.fate id with
  | answers w =>
    rw [fate_eq_answers hc' hrun', hmailbox]
    exact (fate_eq_answers hc hrun).mp hfate
  | cancels =>
    rw [fate_eq_cancels hc' hrun', hmailbox]
    exact (fate_eq_cancels hc hrun).mp hfate
  | nothing =>
    cases hfate' : ch'.fate id with
    | answers w =>
      rw [fate_eq_answers hc' hrun', hmailbox, ← fate_eq_answers hc hrun, hfate] at hfate'
      cases hfate'
    | cancels =>
      rw [fate_eq_cancels hc' hrun', hmailbox, ← fate_eq_cancels hc hrun, hfate] at hfate'
      cases hfate'
    | nothing => rfl

/-- Of the replies to a caller who has left, only the first one counts, and only for a
subscription. -/
theorem fate_of_left (hc : Correlated τ h (ch.ledger ρ)) (hrun : ch.isStopped = false) {t : Ticket}
    (hnumber : (story t h).number = some id) (hgone : (ch.mailbox t).waiting = false) :
    ch.fate id = if (story t h).answer = none ∧ (story t h).routed = true then .cancels
      else .nothing := by
  split
  case isTrue hopen => exact (fate_eq_cancels hc hrun).mpr ⟨t, hnumber, hopen.1, hopen.2, hgone⟩
  case isFalse hopen =>
    cases hfate : ch.fate id with
    | answers w =>
      obtain ⟨hnumber', -, -, hwaiting⟩ := (fate_eq_answers hc hrun).mp hfate
      obtain rfl := hc.apart t w.ticket id hnumber hnumber'
      cases hwaiting.symm.trans hgone
    | cancels =>
      obtain ⟨t', hnumber', hanswer, hrouted, -⟩ := (fate_eq_cancels hc hrun).mp hfate
      obtain rfl := hc.apart t t' id hnumber hnumber'
      exact absurd ⟨hanswer, hrouted⟩ hopen
    | nothing => rfl

/-- A request that a caller waits for is pending from its number to its answer. -/
lemma any_pending_of_waiting (hc : Correlated τ h (ch.ledger ρ)) (hrun : ch.isStopped = false)
    {t : Ticket} (hwaiting : (ch.mailbox t).waiting = true) :
    ch.pending.any (·.2.ticket = t) = true
      ↔ (story t h).number ≠ none ∧ (story t h).answer = none := by
  rw [List.any_eq_true]
  constructor
  · rintro ⟨⟨i, w⟩, hmem, ht⟩
    obtain ⟨hnumber, -, hanswer, -⟩ := hc.pending i w hmem
    rw [of_decide_eq_true ht] at hnumber hanswer
    exact ⟨by simp [hnumber], hanswer⟩
  · rintro ⟨hnumber, hanswer⟩
    obtain ⟨i, hi⟩ := Option.ne_none_iff_exists'.mp hnumber
    rcases hc.tracked hrun t i hi hanswer with hmem | ⟨hgone, -⟩
    · exact ⟨_, hmem, by simp⟩
    · cases hwaiting.symm.trans hgone

lemma not_any_pending_of_answered (hc : Correlated τ h (ch.ledger ρ)) {t : Ticket}
    (hanswer : (story t h).answer ≠ none) :
    ch.pending.any (fun p => p.2.ticket = t && p.2.routed) = false := by
  rw [List.any_eq_false]
  rintro ⟨i, w⟩ hmem ht
  simp only [Bool.and_eq_true, decide_eq_true_eq] at ht
  exact hanswer (ht.1 ▸ (hc.pending i w hmem).2.2.1)

end Channel

/-! ### Consumers -/

lemma story_answer_append (h' : List Note) {t : Ticket} (hanswer : (story t h).answer ≠ none) :
    (story t (h ++ h')).answer ≠ none := by
  induction h' using List.reverseRecOn with
  | nil => rwa [List.append_nil]
  | append_singleton h' n ih =>
    obtain ⟨r, hr⟩ := Option.ne_none_iff_exists'.mp ih
    rw [← List.append_assoc, story_append_singleton, Story.answer_note hr]
    simp

/-- Consumers have had their answers, wherever steps lead. -/
theorem answered_of_steps {l : Ledger} (hs : Ledger.start.Steps τ h l)
    (hlen : (numbered h).length ≤ UInt64.size) {t : Ticket} {sub : Subscription}
    (hrole : l.role t = .consumer sub) : (story t h).answer ≠ none := by
  refine hs.invariant_correlated (P := fun h l =>
    ∀ t sub, l.role t = .consumer sub → (story t h).answer ≠ none) ?_ ?_ hlen t sub hrole
  · rintro t sub ⟨⟩
  · intro h h' l l' _ _ hc hanswered hstep t sub hrole
    have hold := fun sub hsub => story_answer_append h' (hanswered t sub hsub)
    cases hstep with
    | @«open» u x r c topic hcaller hrouted hreply hrejection hcall =>
      by_cases htu : t = u
      · subst htu
        have ha := hc.caller t x hcaller
        rw [List.append_nil, ← ha.reply, hreply]
        simp
      · exact hold sub (by simpa [htu] using hrole)
    | @close u s hconsumer hevents hnever =>
      by_cases htu : t = u
      · subst htu
        exact hold s hconsumer
      · exact hold sub (by simpa [htu] using hrole)
    | enter | ticket | queue | fail | finish | abandon | release | drop =>
      exact hold sub (by grind)
    | _ => exact hold sub hrole

end GroundLink.Connection
