import GroundLink.Proofs.Connection.Correlation

/-!
# What callers find

A caller finds the first reply to the number of its own request, however late it looks. As long as
there is none it waits, until its time is over or the dispatcher has stopped.
-/

namespace GroundLink.Connection

open Protocol

/-! ### The reply to a request -/

def Note.numberOf? (t : Ticket) : Note → Option RequestId
  | .sent r (some w) => if w.ticket = t then some r.id else none
  | _ => none

def Note.replyTo? (id : RequestId) : Note → Option Reply
  | .handled (.reply r) => if r.request = some id then some r else none
  | _ => none

/-- The first reply to the number of a request since the request has got it. -/
def replyOf (t : Ticket) : List Note → Option Reply
  | [] => none
  | n :: h => match n.numberOf? t with
    | some id => h.findSome? (Note.replyTo? id)
    | none => replyOf t h

lemma Story.answer_note_eq {t : Ticket} {s : Story} {id : RequestId} (hs : s.number = some id)
    (n : Note) :
    (s.note t n).number = some id ∧ (s.note t n).answer = s.answer.or (n.replyTo? id) := by
  have hnumber : (s.note t n).number = some id := by
    fun_cases note t n s <;> grind
  cases ha : s.answer with
  | some r =>
    rw [Option.some_or]
    exact ⟨hnumber, answer_note ha⟩
  | none =>
    rw [Option.none_or]
    refine ⟨hnumber, ?_⟩
    fun_cases note t n s <;> grind [Note.replyTo?]

lemma Story.answer_of_number {t : Ticket} {s : Story} {id : RequestId}
    (hs : s.number = some id) (h : List Note) :
    (h.foldl (fun s n => s.note t n) s).answer = s.answer.or (h.findSome? (Note.replyTo? id)) := by
  induction h generalizing s with
  | nil => simp
  | cons n h ih =>
    obtain ⟨hnumber, hanswer⟩ := answer_note_eq (t := t) hs n
    rw [List.foldl_cons, ih hnumber, hanswer, List.findSome?_cons, Option.or_assoc]
    cases n.replyTo? id <;> simp

/-- The answer of a story is the first reply to its number. -/
theorem story_answer (t : Ticket) (h : List Note) : (story t h).answer = replyOf t h := by
  -- The induction runs from the first note on: no reply counts before the number is given.
  suffices hgen : ∀ s : Story, s.number = none → s.answer = none →
      (h.foldl (fun s n => s.note t n) s).answer = replyOf t h from hgen .blank rfl rfl
  induction h with
  | nil => exact fun s _ ha => ha
  | cons n h ih =>
    intro s hn ha
    rw [List.foldl_cons, replyOf]
    cases hid : n.numberOf? t with
    | some id =>
      have hstep : (s.note t n).number = some id ∧ (s.note t n).answer = none := by
        fun_cases Story.note t n s <;> grind [Note.numberOf?]
      rw [Story.answer_of_number hstep.1, hstep.2, Option.none_or]
    | none =>
      have hstep : (s.note t n).number = none ∧ (s.note t n).answer = none := by
        fun_cases Story.note t n s <;> grind [Note.numberOf?]
      exact ih _ hstep.1 hstep.2

/-! ### Findings -/

/-- What a caller finds, by the reply to its request and the time when this was queued. -/
inductive Finds {σ α : Type} (s : System) (name : String) (result : Reply → Except Client.Error α) :
    Option Reply → Option Nat → Poll σ α → Prop
  | answered {r : Reply} {queuedAt : Option Nat} :
      Finds s name result (some r) queuedAt (.ready (result r))
  | closed {queuedAt : Option Nat} :
      s.channel.isStopped = true → Finds s name result none queuedAt (.ready (.error .closed))
  | late {time : Nat} :
      s.channel.isStopped = false → time + s.timeout ≤ s.now →
      Finds s name result none (some time)
        (.ready (.error (.timeout name s.setting.config.replyTimeout)))
  | waits {queuedAt : Option Nat} {state : σ} :
      s.channel.isStopped = false → (∀ time, queuedAt = some time → s.now < time + s.timeout) →
      Finds s name result none queuedAt (.pending state)

/-- What a reply says to whoever has asked. -/
def Exchange.taken (x : Exchange) (r : Reply) : Except Client.Error Reply :=
  match r.rejection with
  | some e => .error (.server x.request.typeName e)
  | none => .ok r

/-- What a reply gives a caller that opens no call. -/
def Operation.sendResult (x : Exchange) (r : Reply) : Except Client.Error Outcome :=
  (x.taken r).map fun r => .sent r.call

/-- What a reply gives a caller that opens a subscription. -/
def Operation.subscribeResult (topic : Topic) (x : Exchange) (r : Reply) :
    Except Client.Error Outcome :=
  (x.taken r).bind fun r => match r.call with
    | some c => .ok (.subscribed (.opened c topic x.ticket))
    | none => .error (.missingCall topic.name)

/-! ### Callers -/

variable {h : List Note} {s : System}

namespace Exchange

/-- A caller whose request is tracked may still get its reply. -/
lemma mayAnswer_of_awaits {t : Ticket} {x : Exchange} (hc : Correlated s.timeout h s.ledger)
    (ha : Awaits s.timeout h s.ledger t x) (hstage : x.stage ≠ .queueing)
    (hnone : (story t h).answer = none) (hrun : s.channel.isStopped = false) :
    s.channel.mayAnswer t = true := by
  rw [Channel.mayAnswer, Bool.or_eq_true]
  cases hnumber : (story t h).number with
  | none =>
    left
    refine List.any_eq_true.mpr ⟨x.command, ha.queued hstage hnumber hrun, ?_⟩
    simp [Command.answers, command, ha.ticket]
  | some i =>
    right
    rcases hc.tracked hrun t i hnumber hnone with hmem | ⟨hgone, -⟩
    · exact List.any_eq_true.mpr ⟨_, hmem, by simp⟩
    · rw [ha.waiting] at hgone
      cases hgone

/-- What a caller finds of a request that has been queued. -/
lemma await_finds {t : Ticket} {x : Exchange} {ch : Channel} {time : Nat} {answer : Option Reply}
    (ht : x.ticket = t) (hreply : (ch.mailbox t).reply = answer)
    (hstopped : ch.isStopped = s.channel.isStopped)
    (hmay : answer = none → (ch.mayAnswer t = true ↔ ch.isStopped = false)) :
    Finds s x.request.typeName x.taken answer (some time)
      (x.await s.setting.config.replyTimeout s.now (time + s.timeout) ch).1 := by
  subst ht
  unfold await
  rw [hreply]
  cases answer with
  | some r =>
    dsimp only
    cases hrejection : r.rejection with
    | some e =>
      have htaken : x.taken r = .error (.server x.request.typeName e) := by
        rw [taken, hrejection]
      dsimp only
      rw [← htaken]
      exact .answered
    | none =>
      have htaken : x.taken r = .ok r := by rw [taken, hrejection]
      dsimp only
      rw [← htaken]
      exact .answered
  | none =>
    dsimp only
    have hmay := hmay rfl
    rw [hstopped] at hmay
    split
    case isTrue h =>
      refine .closed ?_
      rw [Bool.not_eq_true', ← Bool.not_eq_true, hmay, Bool.not_eq_false] at h
      exact h
    case isFalse h =>
      rw [Bool.not_eq_true', Bool.not_eq_false, hmay] at h
      split
      case isTrue hlate => exact .late h hlate
      case isFalse hsoon =>
        refine .waits h ?_
        rintro time' ⟨⟩
        exact Nat.lt_of_not_le hsoon

lemma poll_finds {t : Ticket} {x : Exchange} (hc : Correlated s.timeout h s.ledger)
    (hempty : s.ledger.stopped = true → s.ledger.Empty)
    (ha : Awaits s.timeout h s.ledger t x) :
    Finds s x.request.typeName x.taken (story t h).answer
      (story t (h ++ x.queueNotes s.now s.channel)).queuedAt
      (x.poll s.setting.config.replyTimeout s.now s.channel).1 := by
  have ht := ha.ticket
  cases hstage : x.stage with
  | awaiting deadline =>
    obtain ⟨time, hat, rfl⟩ := ha.due deadline hstage
    have hnotes : x.queueNotes s.now s.channel = [] := by simp [queueNotes, hstage]
    rw [hnotes, List.append_nil, hat]
    simp only [poll, hstage]
    refine await_finds ht ha.reply rfl fun hnone => ?_
    constructor
    -- A dispatcher that has stopped tracks no request.
    · intro hmay
      by_contra hstop
      obtain ⟨hcommands, -, hpending, -⟩ := hempty (eq_true_of_ne_false hstop)
      change s.channel.commands = [] at hcommands
      change s.channel.pending = [] at hpending
      simp [Channel.mayAnswer, hcommands, hpending] at hmay
    · exact mayAnswer_of_awaits hc ha (by simp [hstage]) hnone
  | queueing =>
    obtain ⟨hnumber, hat, -⟩ := ha.queueing hstage
    have hanswer : (story t h).answer = none := by
      by_contra hanswer
      exact story_answered t h hanswer hnumber
    rw [hanswer]
    simp only [poll, hstage]
    rcases s.channel.enqueue_cases x.ticket x.command with ⟨hq, hrun, heq⟩ | ⟨hq, line, heq⟩
    · have hnotes : x.queueNotes s.now s.channel = [.queued t s.now] := by
        rw [queueNotes, if_pos ⟨hstage, hq⟩, ht]
      have hqueued : (story t (h ++ [.queued t s.now])).queuedAt = some s.now := by
        simp [Story.note]
      rw [hnotes, hqueued]
      generalize s.channel.enqueue x.ticket x.command = result at hq heq
      obtain ⟨q, ch⟩ := result
      obtain rfl : q = .queued := hq
      obtain rfl : ch = { s.channel.leaveLine x.ticket with
        commands := s.channel.commands ++ [x.command] } := heq
      have hreply : (s.channel.mailbox t).reply = none := ha.reply.trans hanswer
      refine await_finds ht hreply rfl fun _ => ⟨fun _ => hrun, fun _ => ?_⟩
      rw [Channel.mayAnswer, Bool.or_eq_true]
      left
      refine List.any_eq_true.mpr
        ⟨x.command, List.mem_append_right _ (List.mem_singleton_self _), ?_⟩
      simp [Command.answers, command, ht]
    · have hnot : (s.channel.enqueue x.ticket x.command).1 ≠ .queued := by
        rcases hq with ⟨hq, -⟩ | ⟨hq, -⟩ <;> simp [hq]
      have hnotes : x.queueNotes s.now s.channel = [] := by simp [queueNotes, hnot]
      rw [hnotes, List.append_nil, hat]
      generalize s.channel.enqueue x.ticket x.command = result at hq
      obtain ⟨q, ch⟩ := result
      rcases hq with ⟨hq, hrun⟩ | ⟨hq, hstop⟩
      · obtain rfl : q = .full := hq
        exact .waits hrun (by rintro time ⟨⟩)
      · obtain rfl : q = .closed := hq
        exact .closed hstop

end Exchange

/-- What is found by whoever does something with the reply of an exchange. -/
def Poll.onward {σ σ' α β : Type} (go : σ → σ') (use : α → Except Client.Error β) :
    Poll σ α → Poll σ' β
  | .pending state => .pending (go state)
  | .ready result => .ready (result.bind use)

lemma Finds.onward {σ σ' α β : Type} {name : String} {result : Reply → Except Client.Error α}
    {answer : Option Reply} {queuedAt : Option Nat} {found : Poll σ α}
    (hfound : Finds s name result answer queuedAt found) (go : σ → σ')
    (use : α → Except Client.Error β) :
    Finds s name (fun r => (result r).bind use) answer queuedAt (found.onward go use) := by
  cases hfound with
  | answered => exact @Finds.answered _ _ s name (fun r => (result r).bind use) _ _
  | closed hstop => exact .closed hstop
  | late hrun htime => exact .late hrun htime
  | waits hrun htime => exact .waits hrun htime

namespace Operation

variable {x : Exchange} {answer : Option Reply} {queuedAt : Option Nat} {ch : Channel}

lemma send_finds
    (hx : Finds s x.request.typeName x.taken answer queuedAt
      (x.poll s.setting.config.replyTimeout s.now ch).1) :
    Finds s x.request.typeName (sendResult x) answer queuedAt
      ((Operation.send x).poll s.setting s.now ch).1 := by
  have hpoll : ((Operation.send x).poll s.setting s.now ch).1
      = (x.poll s.setting.config.replyTimeout s.now ch).1.onward Operation.send
        fun r => .ok (.sent r.call) := by
    simp only [poll]
    rcases x.poll s.setting.config.replyTimeout s.now ch with ⟨_ | e | r, ch'⟩ <;> rfl
  have hresult : sendResult x = fun r => (x.taken r).bind fun r => .ok (.sent r.call) := by
    funext r
    rw [sendResult]
    cases x.taken r <;> rfl
  rw [hpoll, hresult]
  exact hx.onward ..

lemma subscribe_finds {topic : Topic}
    (hx : Finds s x.request.typeName x.taken answer queuedAt
      (x.poll s.setting.config.replyTimeout s.now ch).1) :
    Finds s x.request.typeName (subscribeResult topic x) answer queuedAt
      ((Operation.subscribe topic x).poll s.setting s.now ch).1 := by
  have hpoll : ((Operation.subscribe topic x).poll s.setting s.now ch).1
      = (x.poll s.setting.config.replyTimeout s.now ch).1.onward (Operation.subscribe topic)
        fun r => match r.call with
          | some c => .ok (.subscribed (.opened c topic x.ticket))
          | none => .error (.missingCall topic.name) := by
    simp only [poll, openedBy]
    rcases x.poll s.setting.config.replyTimeout s.now ch with ⟨_ | e | r, ch'⟩
    · rfl
    · rfl
    · cases hcall : r.call <;> simp [Poll.onward, Except.bind, Except.map, hcall]
  rw [hpoll]
  exact hx.onward ..

end Operation

/-- The notes of a look tell when the request has been queued. -/
lemma queuedAt_look {t : Ticket} {op : Operation} {x : Exchange}
    (hparty : s.parties.find? t = some (.calling op)) (hx : op.exchange? = some x) :
    (story t (h ++ s.notes (.look t))).queuedAt
      = (story t (h ++ x.queueNotes s.now s.channel)).queuedAt := by
  have hdoings : s.doings (.look t) = op.pollNotes t s.setting s.now s.channel := by
    rw [System.doings, hparty]
  rw [System.notes, hdoings, Operation.pollNotes, hx, Option.map_some, Option.getD_some,
    List.append_assoc, ← List.append_assoc]
  refine (story_same fun n hn => ?_).queuedAt
  rcases List.mem_append.mp hn with hn | hn
  · split at hn
    · split at hn
      · obtain rfl := List.mem_singleton.mp hn
        rfl
      · cases hn
    · cases hn
  · unfold Channel.stopNotes at hn
    split at hn
    · obtain rfl := List.mem_singleton.mp hn
      rfl
    · cases hn

/-- What is kept along a run of the requests in it. -/
lemma Run.correlated {setting : Setting} {textRoom : Nat} (hrun : Run setting textRoom h s)
    (hlen : (numbered h).length ≤ UInt64.size) :
    Correlated s.timeout h s.ledger ∧ (s.ledger.stopped = true → s.ledger.Empty) := by
  obtain ⟨hsteps, -, hconfig⟩ := hrun.steps
  rw [System.timeout, hconfig]
  exact ⟨correlated_of_steps hsteps hlen, Ledger.empty_of_steps hsteps⟩

/-- The operations that send a request and wait for the reply, and what a reply gives them. -/
inductive Operation.Asks : Operation → Exchange → (Reply → Except Client.Error Outcome) → Prop
  | send (x : Exchange) : Asks (.send x) x (sendResult x)
  | subscribe (topic : Topic) (x : Exchange) : Asks (.subscribe topic x) x (subscribeResult topic x)

/-- In every run, whenever a caller looks, it finds what the first reply to the number of its own
request says. As long as there is none it waits, and leaves only when the dispatcher has stopped or
when its time is over. Numbers have 64 bits and have not come round. -/
theorem Run.caller_finds {setting : Setting} {textRoom : Nat} (hrun : Run setting textRoom h s)
    (hlen : (numbered h).length ≤ UInt64.size) {t : Ticket} {op : Operation} {x : Exchange}
    {result : Reply → Except Client.Error Outcome}
    (hparty : s.parties.find? t = some (.calling op)) (hop : op.Asks x result) :
    Finds s x.request.typeName result (replyOf t h) (story t (h ++ s.notes (.look t))).queuedAt
      (op.poll s.setting s.now s.channel).1 := by
  obtain ⟨hc, hempty⟩ := hrun.correlated hlen
  have hx : op.exchange? = some x ∧ op.role = .caller x := by
    cases hop <;> exact ⟨rfl, rfl⟩
  have hrole : s.ledger.role t = .caller x := by
    change Party.roleOf (s.parties.find? t) = .caller x
    rw [hparty]
    exact hx.2
  have hfinds := Exchange.poll_finds hc hempty (hc.caller t x hrole)
  rw [queuedAt_look hparty hx.1, ← story_answer]
  cases hop with
  | send => exact Operation.send_finds hfinds
  | subscribe => exact Operation.subscribe_finds hfinds

/-- Two requests. The second one is rejected, and the first one opens a call thereafter. -/
def System.crossing : List System.Act :=
  [.subscribe (.time "simulator" "realtime"), .send (.links "simulator"), .look ⟨0⟩, .look ⟨1⟩,
    .dispatch, .dispatch, .push (rejectingText 2), .push (openingText 1 5), .dispatch, .dispatch]

def System.crossingCaller : Exchange :=
  ⟨⟨0⟩, .time "simulator" "realtime", true, .awaiting 30000000000⟩

/-- The caller of the first request finds its call. -/
theorem Run.caller_finds_call :
    (numbered (System.plain.log System.crossing)).length ≤ UInt64.size
      ∧ (System.plain.play System.crossing).parties.find? ⟨0⟩
        = some (.calling (.subscribe .time System.crossingCaller))
      ∧ replyOf ⟨0⟩ (System.plain.log System.crossing) = some ⟨some ⟨5⟩, some ⟨1⟩, none⟩
      ∧ Finds (System.plain.play System.crossing) System.crossingCaller.request.typeName
        (Operation.subscribeResult .time System.crossingCaller)
        (replyOf ⟨0⟩ (System.plain.log System.crossing))
        (story ⟨0⟩ (System.plain.log System.crossing
          ++ (System.plain.play System.crossing).notes (.look ⟨0⟩))).queuedAt
        ((Operation.subscribe .time System.crossingCaller).poll
          (System.plain.play System.crossing).setting (System.plain.play System.crossing).now
          (System.plain.play System.crossing).channel).1 := by
  have hlen : (numbered (System.plain.log System.crossing)).length ≤ UInt64.size := by
    decide +kernel
  have hparty : (System.plain.play System.crossing).parties.find? ⟨0⟩
      = some (.calling (.subscribe .time System.crossingCaller)) := rfl
  have hfinds := (Run.plain System.crossing).caller_finds hlen hparty
    (.subscribe .time System.crossingCaller)
  exact ⟨hlen, hparty, by decide +kernel, hfinds⟩

end GroundLink.Connection
