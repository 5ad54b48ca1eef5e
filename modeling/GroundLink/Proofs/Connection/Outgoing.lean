import GroundLink.Proofs.Connection.Placing
import GroundLink.Proofs.Protocol.Request

/-!
# What is written

The dispatcher writes for four reasons: a caller waits for a reply, somebody wants the server state,
a subscription has been let go, or a reply comes that opens a call for a caller who has left. Each
text is a request under the next number, whatever it is written for. Commands are written in the
order in which they have been queued, and cancels in the order in which subscriptions have been let
go or in which the late replies have come.
-/

namespace GroundLink.Connection

open Protocol

/-! ### Sources -/

/-- What a request is written for. -/
inductive Source where
  /-- A command, and who waits for its reply. -/
  | order (request : Request) (waiter : Option Waiter)
  /-- A subscription that has been let go. -/
  | release (call : CallId)
  /-- A reply that has come too late. -/
  | late (call : CallId)
deriving DecidableEq, Repr

namespace Source

def request : Source → Request
  | .order r _ => r
  | .release c | .late c => .cancel c

def order? : Source → Option (Request × Option Waiter)
  | .order r w => some (r, w)
  | _ => none

def release? : Source → Option CallId
  | .release c => some c
  | _ => none

def late? : Source → Option CallId
  | .late c => some c
  | _ => none

end Source

/-- The request of a command, and who waits for its reply. -/
def Command.order? : Command → Option (Request × Option Waiter)
  | .send r w => some (r, w)
  | .close => none

/-- The call that a text opens, if it is a reply. -/
def openedIn (text : String) : Option CallId :=
  match Frame.decode text with
  | .reply r => accepted r
  | _ => none

namespace Channel

variable {ch : Channel} {reply : Reply}

/-- What the dispatcher numbers a request for in a task, if it does. -/
def source? (ch : Channel) (task : Task) : Option Source :=
  match task with
  | .execute (.send r w) _ => some (.order r w)
  | .cancel c _ => some (.release c)
  | .receive text _ => match Frame.decode text with
    | .reply r => (cancelledBy r ch (ch.perform task)).map .late
    | _ => none
  | .write .. | .execute .close _ | .stop => none

lemma numbered_taskNotes (task : Task) :
    (numbered (ch.taskNotes task)).map (·.request)
      = ((ch.source? task).map Source.request).toList := by
  cases task with
  | execute c rest => cases c <;> rfl
  | receive text rest =>
    simp only [taskNotes, source?]
    cases Frame.decode text with
    | reply r =>
      dsimp only
      cases cancelledBy r ch (ch.perform (.receive text rest)) <;> rfl
    | _ => rfl
  | _ => rfl

/-- A reply that opens no call is handled without a new number. -/
lemma nextId_handleReply (frame : Option Frame) (ch : Channel) (hnone : accepted reply = none) :
    (handleReply reply frame ch).nextId = ch.nextId := by
  obtain ⟨pending, abandoned, routes, mailboxes, hsend | ⟨c, hsome, -⟩⟩ :=
    reacts_handleReply reply ch
  · simp only [hsend, nextId_publish]
  · cases hnone.symm.trans hsome

/-- What is cancelled because a reply has come too late is the call that the reply opens. -/
lemma accepted_of_cancelledBy {text : String} {rest : List String} {c : CallId}
    (htext : Frame.decode text = .reply reply)
    (hc : cancelledBy reply ch (ch.perform (.receive text rest)) = some c) :
    accepted reply = some c := by
  rw [cancelledBy] at hc
  split at hc
  case isTrue => cases hc
  case isFalse hnext =>
    have hsome : accepted reply ≠ none := by
      intro hnone
      refine hnext ?_
      rw [perform, receive]
      simp only [htext]
      exact nextId_handleReply _ _ hnone
    rw [accepted] at hsome ⊢
    split
    · exact hc
    case isFalse hrejected => exact absurd (if_neg hrejected) hsome

/-- For a text the dispatcher numbers at most the cancel of the call that the text opens. -/
lemma source?_receive (ch : Channel) (text : String) (rest : List String) :
    ch.source? (.receive text rest) = none
      ∨ ∃ c, ch.source? (.receive text rest) = some (.late c) ∧ openedIn text = some c := by
  simp only [source?, openedIn]
  cases htext : Frame.decode text with
  | reply r =>
    dsimp only
    cases hc : cancelledBy r ch (ch.perform (.receive text rest)) with
    | none => exact .inl rfl
    | some c => exact .inr ⟨c, rfl, accepted_of_cancelledBy htext hc⟩
  | _ => exact .inl rfl

lemma order?_source? (task : Task) :
    (ch.source? task).bind Source.order? = task.command?.bind Command.order? := by
  cases task with
  | execute c rest => cases c <;> rfl
  | receive text rest =>
    rcases ch.source?_receive text rest with h | ⟨c, h, -⟩
    · rw [h]
      rfl
    · rw [h]
      rfl
  | _ => rfl

lemma release?_source? (task : Task) :
    (ch.source? task).bind Source.release? = task.call? := by
  cases task with
  | execute c rest => cases c <;> rfl
  | receive text rest =>
    rcases ch.source?_receive text rest with h | ⟨c, h, -⟩
    · rw [h]
      rfl
    · rw [h]
      rfl
  | _ => rfl

lemma late?_source? {task : Task} {c : CallId}
    (hc : (ch.source? task).bind Source.late? = some c) : task.text?.bind openedIn = some c := by
  cases task with
  | execute command rest => cases command <;> cases hc
  | receive text rest =>
    rcases ch.source?_receive text rest with h | ⟨d, h, hopened⟩
    · rw [h] at hc
      cases hc
    · rw [h] at hc
      cases hc
      exact hopened
  | _ => cases hc

end Channel

namespace System

variable {s : System}

/-- What the dispatcher numbers a request for with an act. -/
def sources (a : Act) (s : System) : List Source :=
  ((s.task? a).bind s.channel.source?).toList

lemma numbered_act (a : Act) (s : System) :
    (numbered (s.notes a)).map (·.request) = (s.sources a).map Source.request := by
  by_cases ha : a = .dispatch
  · subst ha
    have hstop : ∀ ch ch' : Channel, numbered (Channel.stopNotes ch ch') = [] := by
      intro ch ch'
      rw [Channel.stopNotes]
      split <;> rfl
    rw [notes, numbered_append, hstop, List.append_nil, doings, sources, task?]
    cases s.channel.task? with
    | none => rfl
    | some task =>
      rw [Option.bind_some, ← Option.toList_map]
      exact Channel.numbered_taskNotes task
  · rw [numbered_notes ha, sources, task?_of_ne ha]
    rfl

/-- The numbered requests are those that there has been a reason for. -/
lemma numbered_log (as : List Act) (s : System) :
    (numbered (s.log as)).map (·.request) = (trace sources as s).map Source.request := by
  induction as using List.reverseRecOn with
  | nil => rfl
  | append_singleton as a ih =>
    rw [log_append_singleton, trace_append_singleton, numbered_append, List.map_append,
      List.map_append, ih, numbered_act]

/-! ### Orders -/

section

variable {α β : Type} {f g : Act → System → List α}

lemma filterMap_trace (p : α → Option β) (f : Act → System → List α) (as : List Act)
    (s : System) :
    (trace f as s).filterMap p = trace (fun a s => (f a s).filterMap p) as s := by
  induction as generalizing s with
  | nil => rfl
  | cons a as ih => rw [trace, trace, List.filterMap_append, ih]

lemma trace_sublist (h : ∀ a s, (f a s).Sublist (g a s)) (as : List Act) (s : System) :
    (trace f as s).Sublist (trace g as s) := by
  induction as generalizing s with
  | nil => exact List.Sublist.refl _
  | cons a as ih => exact (h a s).append (ih _)

end

lemma filterMap_toList {α β : Type} (p : α → Option β) (o : Option α) :
    o.toList.filterMap p = (o.bind p).toList := by
  cases o with
  | none => rfl
  | some a => cases h : p a <;> simp [h]

/-- Commands are numbered in the order in which they are taken. -/
lemma orders_sources (as : List Act) (s : System) :
    (trace sources as s).filterMap Source.order?
      = (trace executed as s).filterMap Command.order? := by
  have hact : ∀ a s, (sources a s).filterMap Source.order?
      = (executed a s).filterMap Command.order? := by
    intro a s
    rw [sources, executed, filterMap_toList, filterMap_toList]
    cases s.task? a with
    | none => rfl
    | some task => exact congrArg Option.toList (Channel.order?_source? task)
  rw [filterMap_trace, filterMap_trace]
  exact congrArg (trace · as s) (funext fun a => funext fun s => hact a s)

/-- So are the cancels of subscriptions that have been let go. -/
lemma releases_sources (as : List Act) (s : System) :
    (trace sources as s).filterMap Source.release? = trace withdrawn as s := by
  have hact : ∀ a s, (sources a s).filterMap Source.release? = withdrawn a s := by
    intro a s
    rw [sources, withdrawn, filterMap_toList]
    cases s.task? a with
    | none => rfl
    | some task => exact congrArg Option.toList (Channel.release?_source? task)
  rw [filterMap_trace]
  exact congrArg (trace · as s) (funext fun a => funext fun s => hact a s)

/-- Every other cancel is for a reply that has been received, in the order of the replies. -/
lemma lates_sources (as : List Act) (s : System) :
    ((trace sources as s).filterMap Source.late?).Sublist
      ((trace received as s).filterMap openedIn) := by
  rw [filterMap_trace, filterMap_trace]
  refine trace_sublist (fun a s => ?_) as s
  rw [sources, received, filterMap_toList, filterMap_toList]
  cases s.task? a with
  | none => exact List.Sublist.refl _
  | some task =>
    rw [Option.bind_some, Option.bind_some]
    cases hlate : (s.channel.source? task).bind Source.late? with
    | none => exact List.nil_sublist _
    | some c =>
      rw [Channel.late?_source? hlate]

/-! ### Texts -/

/-- The texts that have been written. -/
def texts (s : System) : List String := s.channel.written.map NumberedRequest.text

/-- What the texts that have been written are for. -/
def written (as : List Act) (s : System) : List Source :=
  (trace sources as s).take (s.play as).texts.length

/-- What is written is a part of what there has been a reason for, from the first. -/
lemma written_initial (as : List Act) (s : System) : s.written as <+: trace sources as s :=
  List.take_prefix ..

/-- What is written along a run. -/
structure Outgoing (as : List Act) (s : System) : Prop where
  /-- Each text is read as the request that it has been written for, under the number of its
  place. -/
  texts : ∀ i text, (s.play as).texts[i]? = some text → ∃ source j r,
    (s.written as)[i]? = some source ∧ Json.parse text = .ok j ∧ NumberedRequest.read j = .ok r
      ∧ r.id.val.toNat = i + 1 ∧ r.request = source.request
  /-- Commands are written in the order in which they have been queued. -/
  orders : (s.written as).filterMap Source.order? <+: (trace orders as s).filterMap Command.order?
  /-- Where somebody waits for the reply, it is the caller that has come with the request. -/
  asked : ∀ r w, (r, some w) ∈ (s.written as).filterMap Source.order? →
    (w.ticket, r) ∈ trace asks as s
  own : ((trace asks as s).map (·.1)).Nodup
  /-- The request of a caller is written at most once. -/
  once : ((s.written as).filterMap Source.order?).filterMap (·.2.map (·.ticket))
    |>.Nodup
  /-- Otherwise the server state is asked for. -/
  unasked : ∀ r, (r, none) ∈ (s.written as).filterMap Source.order? → r = .state
  /-- Calls are cancelled in the order in which their subscriptions have been let go. -/
  releases : (s.written as).filterMap Source.release? <+: trace loses as s
  /-- Other cancels are for replies that open calls, in the order of the replies. -/
  lates : ((s.written as).filterMap Source.late?).Sublist
    ((trace received as s).filterMap openedIn)

variable {setting : Setting} {textRoom : Nat}

/-- The request at each place has the number of the place, and comes from the source there. -/
lemma numbered_getElem {as : List Act} {l : Ledger} {i : Nat} {r : NumberedRequest}
    (hn : Numbered (s.log as) l) (hr : (numbered (s.log as))[i]? = some r) :
    r.id = numberAfter i
      ∧ ∃ source, (trace sources as s)[i]? = some source ∧ source.request = r.request := by
  obtain ⟨hi, -⟩ := List.getElem?_eq_some_iff.mp hr
  have hid : ((numbered (s.log as)).map (·.id))[i]? = some r.id := by
    rw [List.getElem?_map, hr]
    rfl
  have hrequest : ((numbered (s.log as)).map (·.request))[i]? = some r.request := by
    rw [List.getElem?_map, hr]
    rfl
  rw [hn.ids, List.getElem?_map, List.getElem?_range hi] at hid
  rw [numbered_log, List.getElem?_map, Option.map_eq_some_iff] at hrequest
  exact ⟨(Option.some.inj hid).symm, hrequest⟩

lemma texts_written {as : List Act} (hn : Numbered (s.log as) (s.play as).ledger)
    (hlen : (numbered (s.log as)).length < UInt64.size) {i : Nat} {text : String}
    (htext : (s.play as).texts[i]? = some text) :
    ∃ source j r, (s.written as)[i]? = some source ∧ Json.parse text = .ok j
      ∧ NumberedRequest.read j = .ok r ∧ r.id.val.toNat = i + 1
      ∧ r.request = source.request := by
  obtain ⟨hi, -⟩ := List.getElem?_eq_some_iff.mp htext
  rw [texts, List.getElem?_map, Option.map_eq_some_iff] at htext
  obtain ⟨r, hr, rfl⟩ := htext
  obtain ⟨j, hparse, hread⟩ := r.read_text
  have hwritten : (numbered (s.log as))[i]? = some r := by
    obtain ⟨rest, hrest⟩ : (s.play as).channel.written <+: numbered (s.log as) := hn.written
    rw [← hrest, List.getElem?_append_left (List.getElem?_eq_some_iff.mp hr).1]
    exact hr
  obtain ⟨hid, source, hsource, hrequest⟩ := numbered_getElem hn hwritten
  refine ⟨source, j, r, ?_, hparse, hread, ?_, hrequest.symm⟩
  · rw [written, List.getElem?_take_of_lt hi]
    exact hsource
  · have hbound := (List.getElem?_eq_some_iff.mp hwritten).1
    rw [hid, numberAfter, UInt64.toNat_ofNat']
    exact Nat.mod_eq_of_lt (Nat.lt_of_le_of_lt hbound hlen)

/-- What the dispatcher writes for commands is what has been queued, in its order. -/
lemma orders_written (as : List Act) (hnone : s.channel.commands = []) :
    (s.written as).filterMap Source.order?
      <+: (trace orders as s).filterMap Command.order? := by
  have hprefix := (written_initial as s).filterMap Source.order?
  have htaken := (commands_inOrder as s).taken_initial.filterMap Command.order?
  rw [orders_sources] at hprefix
  rw [hnone, List.nil_append] at htaken
  exact hprefix.trans htaken

lemma ticket?_eq_order? : Command.ticket? = fun c => c.order?.bind (·.2.map (·.ticket)) := by
  funext c
  cases c with
  | close => rfl
  | send r w => cases w <;> rfl

/-- In every run with fewer than `2 ^ 64` requests, the texts that are written have the numbers from
one on, each of them is read as the request that it has been written for, the requests of callers
and the cancels of subscriptions that have been let go keep their orders, and no request of a caller
is written twice. -/
theorem written_in_order (as : List Act)
    (hlen : (numbered ((start setting textRoom).log as)).length < UInt64.size) :
    (start setting textRoom).Outgoing as := by
  have hrun : Run setting textRoom ((start setting textRoom).log as)
      ((start setting textRoom).play as) := Run.start.play as
  have hn := numbered_of_steps hrun.steps.1
  have hplaced := placed_play setting textRoom as
  have horders := orders_written (s := start setting textRoom) as rfl
  have hstems : ∀ r w, (r, w) ∈ ((start setting textRoom).written as).filterMap Source.order? →
      Command.Stems (trace asks as (start setting textRoom)) (.send r w) := by
    intro r w hrw
    obtain ⟨c, hc, hcw⟩ := List.mem_filterMap.mp (horders.subset hrw)
    cases c with
    | close => cases hcw
    | send r' w' =>
      cases hcw
      exact hplaced.stems _ hc
  have honce := hplaced.once
  rw [ticket?_eq_order?, ← List.filterMap_filterMap] at honce
  have hreleases := (written_initial as (start setting textRoom)).filterMap Source.release?
  rw [releases_sources] at hreleases
  have hlates := (written_initial as (start setting textRoom)).sublist.filterMap Source.late?
  exact {
    texts := fun i text htext => texts_written hn hlen htext
    orders := horders
    asked := fun r w hrw => hstems r (some w) hrw
    own := hplaced.own
    once := honce.sublist (horders.sublist.filterMap _)
    unasked := fun r hr => hstems r none hr
    releases := hreleases.trans (cancels_inOrder as (start setting textRoom)).taken_initial
    lates := hlates.trans (lates_sources as _) }

/-- Two subscriptions are asked for. The first one is opened, and let go at the end. The caller of
the second one leaves before its reply comes. In between somebody asks for the server state. -/
def fourfold : List Act :=
  [.subscribe (.time "simulator" "realtime"), .look ⟨0⟩, .dispatch, .push (openingText 1 5),
    .dispatch, .look ⟨0⟩, .subscribe (.links "simulator"), .look ⟨1⟩, .dispatch, .abandon ⟨1⟩,
    .push (openingText 2 6), .dispatch, .askState, .look ⟨2⟩, .dispatch, .release ⟨0⟩, .dispatch]

/-- All four kinds of requests are written, one after another. -/
theorem written_in_order_fourfold :
    (numbered (plain.log fourfold)).length < UInt64.size
      ∧ plain.written fourfold
        = [.order (.time "simulator" "realtime") (some ⟨⟨0⟩, true⟩),
          .order (.links "simulator") (some ⟨⟨1⟩, true⟩), .late ⟨6⟩, .order .state none,
          .release ⟨5⟩]
      ∧ (plain.play fourfold).texts[2]?
        = some "\x7b\"id\":3,\"type\":\"cancel\",\"options\":\x7b\"call\":6\x7d\x7d"
      ∧ plain.Outgoing fourfold := by
  have hlen : (numbered (plain.log fourfold)).length < UInt64.size := by
    decide +kernel
  have hwritten : plain.written fourfold
      = [.order (.time "simulator" "realtime") (some ⟨⟨0⟩, true⟩),
        .order (.links "simulator") (some ⟨⟨1⟩, true⟩), .late ⟨6⟩, .order .state none,
        .release ⟨5⟩] := by
    decide +kernel
  have htext : (plain.play fourfold).texts[2]?
      = some "\x7b\"id\":3,\"type\":\"cancel\",\"options\":\x7b\"call\":6\x7d\x7d" := by
    decide +kernel
  exact ⟨hlen, hwritten, htext, written_in_order fourfold hlen⟩

end System

end GroundLink.Connection
