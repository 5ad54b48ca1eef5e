import GroundLink.Proofs.Connection.Parties
import GroundLink.Proofs.Connection.Streaming

/-!
# What streams emit

A stream with earlier history subscribes first and fetches thereafter. So nothing is lost between
the two: it emits what the archive knows, and thereafter one item for each payload of its kind that
has been handled since the reply to its request, however long the fetch takes.
-/

namespace GroundLink.Connection

open Model Protocol

variable {h h' : List Note} {s : System} {t : Ticket} {v : Viewer} {st : Stream} {ch : Channel}
  {arrived : List Update} {E : List Item}

/-! ### Items -/

namespace System

/-- The item that an act brings to the consumer of a stream. -/
def emits (t : Ticket) (a : Act) (s : System) : Option Item :=
  match a, s.parties.find? t with
  | .read u, some (.streaming st) => if u = t then (st.poll s.channel).1.item? else none
  | _, _ => none

/-- The items that acts bring to the consumer of a stream. -/
def emitted (t : Ticket) : List Act → System → List Item
  | [], _ => []
  | a :: as, s => (s.emits t a).toList ++ emitted t as (s.act a)

end System

/-! ### Parties -/

namespace System

/-- Only the consumer itself reads. -/
lemma not_yielded {a : Act} (ha : a ≠ .read t) (u : Update) : .yielded t u ∉ s.notes a := by
  rw [notes, List.mem_append, not_or]
  constructor
  · unfold doings
    split
    case h_1 v =>
      split
      case h_1 op _ =>
        rw [Operation.pollNotes, List.mem_append, not_or]
        constructor
        · cases op.exchange? with
          | none => exact List.not_mem_nil
          | some x =>
            simp only [Option.map_some, Option.getD_some, Exchange.queueNotes]
            split <;> simp
        · split
          · split <;> simp
          · exact List.not_mem_nil
      case h_2 => exact List.not_mem_nil
    case h_2 v =>
      split
      case h_1 op _ => cases op <;> simp [Operation.abandonNotes]
      case h_2 => exact List.not_mem_nil
    case h_3 v =>
      have hv : v ≠ t := fun heq => ha (congrArg Act.read heq)
      split
      case h_3 => simp [hv]
      all_goals exact List.not_mem_nil
    case h_4 v => split <;> simp
    case h_5 =>
      split
      case h_1 task _ =>
        unfold Channel.taskNotes
        split
        case h_3 text _ => split <;> simp
        all_goals simp
      case h_2 => exact List.not_mem_nil
    case h_6 => exact List.not_mem_nil
  · unfold Channel.stopNotes
    split <;> simp

lemma emits_of_ne {a : Act} (ha : a ≠ .read t) : s.emits t a = none := by
  unfold emits
  split
  case h_1 u st _ =>
    rw [if_neg]
    rintro rfl
    exact ha rfl
  case h_2 => rfl

/-- A stream reads. -/
lemma act_read (hparty : s.parties.find? t = some (.streaming st)) :
    (s.act (.read t)).parties.find? t = some (.streaming (st.poll s.channel).2.1)
      ∧ (s.act (.read t)).channel = (st.poll s.channel).2.2
      ∧ s.emits t (.read t) = (st.poll s.channel).1.item? := by
  obtain ⟨hparty', hchannel⟩ := act_read_of_party hparty rfl
  exact ⟨hparty', hchannel, by simp only [emits, hparty, ↓reduceIte]⟩

/-- A caller comes to read a stream that it has opened. -/
lemma poll_of_look {op : Operation} (hparty : s.parties.find? t = some (.calling op))
    (hopen : (s.act (.look t)).parties.find? t = some (.streaming st)) :
    (op.poll s.setting s.now s.channel).1 = .ready (.ok (.streaming st)) := by
  have hafter := (act_look_of_calling hparty).1.symm.trans hopen
  generalize (op.poll s.setting s.now s.channel).1 = result at hafter ⊢
  rcases result with op' | e | o
  · cases hafter
  · cases hafter
  · cases o <;> cases hafter
    rfl

/-- Whoever reads without a pause gets the next items. -/
lemma emitted_reads (hparty : s.parties.find? t = some (.streaming st))
    (hs : Supplied v st s.channel arrived E) (n : Nat) :
    s.emitted t (List.replicate n (.read t)) = ((v.shown arrived).drop E.length).take n := by
  induction n generalizing s st E with
  | zero => rfl
  | succ n ih =>
    obtain ⟨hparty', hchannel, hemits⟩ := act_read hparty
    have hmore := hs.poll
    rw [← hchannel] at hmore
    rw [List.replicate_succ, emitted, hemits, ih hparty' hmore, hs.found]
    cases hnext : (v.shown arrived)[E.length]? with
    | none =>
      have hdrop : (v.shown arrived).drop E.length = [] :=
        List.drop_eq_nil_of_le (List.getElem?_eq_none_iff.mp hnext)
      have hitem : (Found.next (none : Option Item) !s.channel.isStopped).item?.toList = [] := by
        cases s.channel.isStopped <;> rfl
      rw [hitem, List.append_nil, hdrop, List.take_nil, List.take_nil, List.append_nil]
    | some item =>
      obtain ⟨hlt, rfl⟩ := List.getElem?_eq_some_iff.mp hnext
      rw [List.drop_eq_getElem_cons hlt, List.take_succ_cons]
      simp [Found.next, Found.item?]

end System

/-! ### Beginnings of streams -/

namespace Operation

/-- The plan of the stream that an operation opens. -/
def plan? : Operation → Option Plan
  | .stream plan .. | .fetch plan .. => some plan
  | _ => none

variable {setting : Setting} {now : Nat}

lemma start_of_pollFetch {plan : Plan} {sub : Subscription} {due : Nat}
    (hready : (pollFetch setting now plan sub due ch).1 = .ready (.ok (.streaming st))) :
    ∃ v, viewer setting plan = .ok v ∧ st = .start sub v := by
  unfold pollFetch at hready
  split at hready
  · cases hready
  · split at hready
    case h_1 v hv =>
      cases hready
      exact ⟨v, hv, rfl⟩
    case h_2 => cases hready

/-- A stream begins with what its plan knows. -/
lemma start_of_poll {op : Operation} {plan : Plan} (hplan : op.plan? = some plan)
    (hready : (op.poll setting now ch).1 = .ready (.ok (.streaming st))) :
    ∃ v sub, viewer setting plan = .ok v ∧ st = .start sub v := by
  cases op with
  | stream plan' topic x =>
    obtain rfl : plan' = plan := Option.some.inj hplan
    simp only [poll] at hready
    split at hready
    · cases hready
    · split at hready
      · obtain ⟨v, hv, hst⟩ := start_of_pollFetch hready
        exact ⟨v, _, hv, hst⟩
      · cases hready
    · cases hready
  | fetch plan' sub due =>
    obtain rfl : plan' = plan := Option.some.inj hplan
    obtain ⟨v, hv, hst⟩ := start_of_pollFetch hready
    exact ⟨v, sub, hv, hst⟩
  | _ => cases hplan

end Operation

/-! ### Runs -/

/-- A stream has emitted some items, and may have been let go since. -/
inductive Streams (h : List Note) (s : System) (t : Ticket) (v : Viewer) (E : List Item) : Prop
  | live {st : Stream} : s.parties.find? t = some (.streaming st) →
      Progress v st (story t h).read E → Streams h s t v E
  | left : s.parties.find? t = none → E <+: v.shown (story t h).arrived → Streams h s t v E

section

variable {setting : Setting} {textRoom : Nat}

/-- A caller has read nothing. -/
lemma Run.read_of_calling (hrun : Run setting textRoom h s)
    (hlen : (numbered h).length ≤ UInt64.size) {op : Operation}
    (hparty : s.parties.find? t = some (.calling op)) : (story t h).read = [] := by
  induction hrun generalizing op with
  | start => cases hparty
  | @act h s a hrun ih =>
    have hlen' := numbered_length_of_append hlen
    by_cases ha : a = .read t
    · subst ha
      have hidle : ∀ p, s.parties.find? t = some p → p.isCalling = true := by
        intro p hp
        cases p with
        | calling op => rfl
        | holding | streaming =>
          rw [System.act, System.read, hp, System.find_put, if_pos rfl] at hparty
          cases hparty
      obtain ⟨hact, hnotes⟩ := System.act_read_of_idle hidle
      rw [hact] at hparty
      rw [hnotes, List.append_nil]
      exact ih hlen' hparty
    · rw [story_read_append fun u => System.not_yielded ha u]
      rcases hparty ▸ System.find_act a s t with hsame | hchanges
      · exact ih hlen' hsame.symm
      · cases hchanges with
        | begun =>
          obtain ⟨hblank, -⟩ := (hrun.correlated hlen').1.fresh _ (Nat.le_refl _)
          rw [hblank]
          rfl
        | looked hcalling => exact ih hlen' hcalling
        | read => exact absurd rfl ha

/-- What a stream has emitted is shown by what has arrived. -/
lemma Run.emitted_shown (hrun : Run setting textRoom h s)
    (hlen : (numbered h).length ≤ UInt64.size) (hd : CallsDistinct h)
    (hs : Streams h s t v E) : E <+: v.shown (story t h).arrived := by
  cases hs with
  | live hparty hprogress =>
    obtain ⟨hsteps, -, -⟩ := hrun.steps
    exact hprogress.emitted_shown.trans
      (v.shown_mono ((delivered_of_steps hsteps hlen hd).before t))
  | left _ hpre => exact hpre

/-- An act brings a stream its next item, or none. -/
lemma Run.streams_act (hrun : Run setting textRoom h s)
    (hlen : (numbered h).length ≤ UInt64.size) (hd : CallsDistinct h)
    (hopened : (story t h).opened ≠ none) (hs : Streams h s t v E) (a : System.Act) :
    Streams (h ++ s.notes a) (s.act a) t v (E ++ (s.emits t a).toList) := by
  obtain ⟨-, hfits, -⟩ := hrun.steps
  -- A ticket with a story is not given out again.
  have hold : t.val ≠ s.channel.nextTicket := by
    intro hnew
    obtain ⟨hblank, -⟩ := (hrun.correlated hlen).1.fresh t (Nat.le_of_eq hnew.symm)
    rw [hblank] at hopened
    exact hopened rfl
  have hpre := (hrun.emitted_shown hlen hd hs).trans
    (v.shown_mono (story_arrived_append t h (s.notes a)))
  by_cases ha : a = .read t
  · subst ha
    cases hs with
    | @live st hparty hprogress =>
      obtain ⟨hparty', -, hemits⟩ := System.act_read hparty
      refine .live hparty' ?_
      rw [System.notes_read hparty rfl, story_yielded, hemits]
      exact hprogress.poll s.channel (hfits t _ hparty)
    | left hparty =>
      have hnone : s.emits t (.read t) = none := by simp only [System.emits, hparty]
      obtain ⟨hact, -⟩ := System.act_read_of_idle (s := s) (t := t) (by simp [hparty])
      refine .left (by rw [hact, hparty]) ?_
      rw [hnone, Option.toList_none, List.append_nil]
      exact hpre
  · rw [System.emits_of_ne ha, Option.toList_none, List.append_nil]
    rcases System.find_act a s t with hsame | hchanges
    · cases hs with
      | live hparty hprogress =>
        refine .live (hsame.trans hparty) ?_
        rwa [story_read_append fun u => System.not_yielded ha u]
      | left hparty => exact .left (hsame.trans hparty) hpre
    · generalize hparty' : (s.act a).parties.find? t = p at hchanges
      cases hchanges with
      | begun => exact absurd rfl hold
      | looked hcalling =>
        cases hs with
        | live hparty | left hparty => cases hparty.symm.trans hcalling
      | read => exact absurd rfl ha
      | abandoned | released => exact .left hparty' hpre

lemma Run.streams_play (hrun : Run setting textRoom h s) (as : List System.Act)
    (hlen : (numbered (h ++ s.log as)).length ≤ UInt64.size) (hd : CallsDistinct (h ++ s.log as))
    (hopened : (story t h).opened ≠ none) (hs : Streams h s t v E) :
    Streams (h ++ s.log as) (s.play as) t v (E ++ s.emitted t as) := by
  induction as generalizing h s E with
  | nil =>
    rw [System.log, System.emitted, List.append_nil, List.append_nil]
    exact hs
  | cons a as ih =>
    have hmore := hrun.streams_act (numbered_length_of_append hlen) hd.of_append hopened hs a
    rw [System.log, ← List.append_assoc] at hlen hd ⊢
    rw [System.emitted, ← List.append_assoc]
    refine ih (hrun.act a) hlen hd ?_ hmore
    obtain ⟨c, hc⟩ := Option.ne_none_iff_exists'.mp hopened
    rw [story_opened_append hc]
    exact Option.some_ne_none c

/-- A stream that goes on has its call. -/
lemma Run.opened_of_streaming (hrun : Run setting textRoom h s)
    (hlen : (numbered h).length ≤ UInt64.size) (hd : CallsDistinct h)
    (hparty : s.parties.find? t = some (.streaming st)) :
    (story t h).opened = some st.subscription.call ∧ (story t h).ending = none := by
  obtain ⟨hsteps, -, -⟩ := hrun.steps
  have hrole : s.ledger.role t = .consumer st.subscription := System.role_of_party hparty
  obtain ⟨hopen, hend, -⟩ := (tended_of_steps hsteps hlen hd).consumer t st.subscription hrole
  exact ⟨hopen, hend⟩

/-- Events may come for a stream as long as the dispatcher runs. -/
lemma Run.mayDeliver_of_streaming (hrun : Run setting textRoom h s)
    (hlen : (numbered h).length ≤ UInt64.size) (hd : CallsDistinct h)
    (hparty : s.parties.find? t = some (.streaming st)) :
    s.channel.mayDeliver t = !s.channel.isStopped := by
  obtain ⟨hsteps, -, -⟩ := hrun.steps
  obtain ⟨hopen, hend⟩ := hrun.opened_of_streaming hlen hd hparty
  cases hstop : s.channel.isStopped with
  | false =>
    obtain ⟨hroute, -⟩ := (tended_of_steps hsteps hlen hd).route hstop t _ hopen hend
    have hany : s.channel.routes.any (·.2 = t) = true :=
      List.any_eq_true.mpr ⟨_, Table.mem_of_find? hroute, decide_eq_true rfl⟩
    rw [Channel.mayDeliver, hany, Bool.or_true]
    rfl
  | true =>
    have hempty := Ledger.empty_of_steps hsteps hstop
    have hcommands : s.channel.commands = [] := hempty.commands
    have hpending : s.channel.pending = [] := hempty.pending
    have hroutes : s.channel.routes = [] := hempty.routes
    rw [Channel.mayDeliver, hcommands, hpending, hroutes]
    rfl

/-- A stream that goes on has what has arrived in its queue. -/
lemma Run.supplied (hrun : Run setting textRoom h s)
    (hlen : (numbered h).length ≤ UInt64.size) (hd : CallsDistinct h)
    (hparty : s.parties.find? t = some (.streaming st)) (hs : Streams h s t v E) :
    Supplied v st s.channel (story t h).arrived E := by
  obtain ⟨hsteps, hfits, -⟩ := hrun.steps
  have hq := delivered_of_steps hsteps hlen hd
  have hticket : st.subscription.ticket = t := hfits t _ hparty
  have hrole : s.ledger.role t = .consumer st.subscription := System.role_of_party hparty
  obtain ⟨-, -, hstate⟩ := (tended_of_steps hsteps hlen hd).consumer t st.subscription hrole
  exact {
    progress := by
      cases hs with
      | @live st' hparty' hprogress =>
        obtain rfl : st = st' := by
          cases hparty.symm.trans hparty'
          rfl
        rw [hticket]
        exact ⟨_, hprogress, hq.queue t (by simp [hrole])⟩
      | left hparty' => cases hparty.symm.trans hparty'
    subscribed := by
      intro _
      rw [hticket]
      exact hrun.mayDeliver_of_streaming hlen hd hparty
    ended := by
      intro hnot
      rw [hticket]
      exact ⟨(hstate.resolve_left hnot).2, hq.closed t st.subscription hrole hnot⟩ }

/-- Wherever acts lead that come after the one that opens a stream. -/
lemma Run.streams_open (hrun : Run setting textRoom h s) {op : Operation} {plan : Plan}
    (hparty : s.parties.find? t = some (.calling op)) (hplan : op.plan? = some plan)
    (hopen : (s.act (.look t)).parties.find? t = some (.streaming st)) {as : List System.Act}
    (hlen : (numbered (h ++ s.log (.look t :: as))).length ≤ UInt64.size)
    (hd : CallsDistinct (h ++ s.log (.look t :: as))) :
    ∃ v c, Operation.viewer s.setting plan = .ok v
      ∧ (story t (h ++ s.log (.look t :: as))).opened = some c
      ∧ Streams (h ++ s.log (.look t :: as)) (s.play (.look t :: as)) t v
        ((s.act (.look t)).emitted t as) := by
  rw [System.log, ← List.append_assoc] at hlen hd ⊢
  have hrun' := hrun.act (.look t)
  have hlen' := numbered_length_of_append hlen
  obtain ⟨v, sub, hv, rfl⟩ := Operation.start_of_poll hplan (System.poll_of_look hparty hopen)
  have hopened : (story t (h ++ s.notes (.look t))).opened = some sub.call :=
    (hrun'.opened_of_streaming hlen' hd.of_append hopen).1
  have hstart : Streams (h ++ s.notes (.look t)) (s.act (.look t)) t v [] := by
    refine .live hopen ?_
    rw [story_read_append fun u => System.not_yielded (by rintro ⟨⟩) u,
      hrun.read_of_calling (numbered_length_of_append hlen') hparty]
    exact .start v sub
  have hne : (story t (h ++ s.notes (.look t))).opened ≠ none := by
    rw [hopened]
    exact Option.some_ne_none _
  exact ⟨v, sub.call, hv, story_opened_append hopened,
    hrun'.streams_play as hlen hd hne hstart⟩

end

/-- What a stream has emitted of its items, and what is left. -/
structure Emits (s : System) (t : Ticket) (items E : List Item) : Prop where
  emitted : E <+: items
  /-- Whoever reads gets the next item. After the last one there is nothing while the dispatcher
  runs, and the stream ends once it has stopped. -/
  next : ∀ st, s.parties.find? t = some (.streaming st) →
    (st.poll s.channel).1 = .next items[E.length]? !s.channel.isStopped
  /-- Whoever reads without a pause gets all the items that are left. -/
  left : ∀ st, s.parties.find? t = some (.streaming st) →
    ∀ n, s.emitted t (List.replicate n (.read t)) = (items.drop E.length).take n

/-- Of any plan, a stream that is opened emits what its viewer shows of the events that have been
handled on its call since the reply to its request. -/
theorem Run.streams_emit {setting : Setting} {textRoom : Nat} (hrun : Run setting textRoom h s)
    {op : Operation} {plan : Plan} (hparty : s.parties.find? t = some (.calling op))
    (hplan : op.plan? = some plan)
    (hopen : (s.act (.look t)).parties.find? t = some (.streaming st)) {as : List System.Act}
    (hlen : (numbered (h ++ s.log (.look t :: as))).length ≤ UInt64.size)
    (hd : CallsDistinct (h ++ s.log (.look t :: as))) :
    ∃ v before r after c, Operation.viewer s.setting plan = .ok v
      ∧ h ++ s.log (.look t :: as) = before ++ .handled (.reply r) :: after
      ∧ replyOf t before = none ∧ replyOf t (h ++ s.log (.look t :: as)) = some r
      ∧ r.rejection = none ∧ r.call = some c
      ∧ Emits (s.play (.look t :: as)) t (v.shown (eventsOf c after))
        ((s.act (.look t)).emitted t as) := by
  obtain ⟨v, c, hv, hopened, hstreams⟩ := hrun.streams_open hparty hplan hopen hlen hd
  have hrun' := hrun.play (.look t :: as)
  obtain ⟨before, r, after, hsplit, hnone, hanswer, hrejection, hcall, hpre, harrived⟩ :=
    story_opening hopened
  rw [story_answer] at hnone hanswer
  -- While the stream goes on, all events since the reply have arrived for it.
  have hsupplied : ∀ st, (s.play (.look t :: as)).parties.find? t = some (.streaming st) →
      Supplied v st (s.play (.look t :: as)).channel (eventsOf c after)
        ((s.act (.look t)).emitted t as) := by
    intro st hst
    rw [← harrived (hrun'.opened_of_streaming hlen hd hst).2]
    exact hrun'.supplied hlen hd hst hstreams
  exact ⟨v, before, r, after, c, hv, hsplit, hnone, hanswer, hrejection, hcall,
    (hrun'.emitted_shown hlen hd hstreams).trans (v.shown_mono hpre),
    fun st hst => (hsupplied st hst).found,
    fun st hst => System.emitted_reads hst (hsupplied st hst)⟩

/-- In every run in which no two replies open the same call, a stream of commands or events that is
opened emits the earlier history first, and then what is known after each payload of its kind that
has been handled on its call since the reply to its request, also while the history was fetched.
Payloads of other kinds leave no trace. -/
theorem Run.streams_show {setting : Setting} {textRoom : Nat} (hrun : Run setting textRoom h s)
    {op : Operation} {plan : Plan} {items : List Update → List Item}
    (hparty : s.parties.find? t = some (.calling op)) (hplan : op.plan? = some plan)
    (hshows : plan.Shows s.setting items)
    (hopen : (s.act (.look t)).parties.find? t = some (.streaming st)) {as : List System.Act}
    (hlen : (numbered (h ++ s.log (.look t :: as))).length ≤ UInt64.size)
    (hd : CallsDistinct (h ++ s.log (.look t :: as))) :
    ∃ before r after c, h ++ s.log (.look t :: as) = before ++ .handled (.reply r) :: after
      ∧ replyOf t before = none ∧ replyOf t (h ++ s.log (.look t :: as)) = some r
      ∧ r.rejection = none ∧ r.call = some c
      ∧ Emits (s.play (.look t :: as)) t (items (eventsOf c after))
        ((s.act (.look t)).emitted t as) := by
  obtain ⟨v, before, r, after, c, hv, hsplit, hnone, hanswer, hrejection, hcall, hemits⟩ :=
    hrun.streams_emit hparty hplan hopen hlen hd
  rw [hshows.shown_eq hv] at hemits
  exact ⟨before, r, after, c, hsplit, hnone, hanswer, hrejection, hcall, hemits⟩

namespace Party

/-- The subscription of a stream whose history is fetched, and until when. -/
def fetching? (wanted : Plan → Bool) : Party → Option (Subscription × Nat)
  | .calling (.fetch plan sub due) => if wanted plan then some (sub, due) else none
  | _ => none

def isStreaming : Party → Bool
  | .streaming _ => true
  | _ => false

lemma eq_of_fetching (wanted : Plan → Bool) {plan : Plan}
    (hplan : ∀ plan', wanted plan' = true → plan' = plan) {p : Option Party} {sub : Subscription}
    {due : Nat} (hp : p.bind (fetching? wanted) = some (sub, due)) :
    p = some (.calling (.fetch plan sub due)) := by
  cases p with
  | none => cases hp
  | some p =>
    simp only [Option.bind_some, fetching?] at hp
    split at hp
    · split at hp
      case isTrue hwanted =>
        cases hp
        rw [hplan _ hwanted]
      case isFalse => cases hp
    · cases hp

lemma eq_of_isStreaming {p : Option Party} (hp : p.any isStreaming = true) :
    ∃ st, p = some (.streaming st) := by
  cases p with
  | none => cases hp
  | some p => cases p with
    | streaming st => exact ⟨st, rfl⟩
    | _ => cases hp

end Party

namespace System

/-- A text of the server: an entry of the command history. -/
def commandText (call seq : Nat) (id : String) : String :=
  "\x7b\"type\":\"commands\",\"call\":" ++ toString call ++ ",\"seq\":" ++ toString seq
    ++ ",\"data\":\x7b\"id\":\"" ++ id ++ "\",\"commandName\":\"/on\",\"origin\":\"gs\","
    ++ "\"generationTime\":\"2024-01-01T00:00:00Z\"\x7d\x7d"

def earlierCommand : CommandEntry :=
  ⟨"a", "/on", none, "gs", none, none, [], ⟨19722, 0, 0⟩, none⟩

/-- A stream of commands. While its history is fetched, a command and a list of links come. -/
def fetchingCommands : List Act :=
  [.archive ⟨.ok [], .ok [], ⟨1000⟩⟩, .stream .commands, .look ⟨0⟩, .dispatch,
    .push (openingText 1 5), .dispatch, .look ⟨0⟩, .push (commandText 5 0 "b"),
    .push (eventText 5 1), .dispatch, .dispatch, .advance ⟨1000⟩,
    .archive ⟨.ok [earlierCommand], .ok [], ⟨1000⟩⟩]

/-- Another command comes, and the dispatcher stops before all are read. -/
def showingCommands : List Act :=
  [.push (commandText 5 2 "c"), .dispatch, .read ⟨0⟩, .read ⟨0⟩, .hangUp, .dispatch, .read ⟨0⟩]

/-- Where the history has been fetched. -/
def fetchedCommands : System := plain.play fetchingCommands

/-- What is noted up to the stop of the dispatcher. -/
def commandsLog : List Note :=
  plain.log fetchingCommands ++ fetchedCommands.log (.look ⟨0⟩ :: showingCommands)

end System

/-- Three items have been emitted: for the history, and for each of the two commands. -/
theorem Run.streams_show_commands :
    (numbered System.commandsLog).length ≤ UInt64.size ∧ CallsDistinct System.commandsLog
      ∧ System.fetchedCommands.parties.find? ⟨0⟩
        = some (.calling (.fetch .commands (.opened ⟨5⟩ .commands ⟨0⟩) 1000))
      ∧ (∃ st, (System.fetchedCommands.act (.look ⟨0⟩)).parties.find? ⟨0⟩ = some (.streaming st))
      ∧ ((System.fetchedCommands.act (.look ⟨0⟩)).emitted ⟨0⟩ System.showingCommands).length = 3
      ∧ ∃ before r after c, System.commandsLog = before ++ .handled (.reply r) :: after
        ∧ replyOf ⟨0⟩ before = none ∧ replyOf ⟨0⟩ System.commandsLog = some r
        ∧ r.rejection = none ∧ r.call = some c
        ∧ Emits (System.fetchedCommands.play (.look ⟨0⟩ :: System.showingCommands)) ⟨0⟩
          (commandItems [System.earlierCommand] (eventsOf c after))
          ((System.fetchedCommands.act (.look ⟨0⟩)).emitted ⟨0⟩ System.showingCommands) := by
  obtain ⟨hlen, hd⟩ : (numbered System.commandsLog).length ≤ UInt64.size
      ∧ CallsDistinct System.commandsLog := by
    decide +kernel
  have hparty : System.fetchedCommands.parties.find? ⟨0⟩
      = some (.calling (.fetch .commands (.opened ⟨5⟩ .commands ⟨0⟩) 1000)) :=
    Party.eq_of_fetching (fun | .commands => true | _ => false)
      (by rintro ⟨⟩ <;> simp) (by decide +kernel)
  have hopen : ∃ st, (System.fetchedCommands.act (.look ⟨0⟩)).parties.find? ⟨0⟩
      = some (.streaming st) :=
    Party.eq_of_isStreaming (by decide +kernel)
  have hshows : Plan.Shows System.fetchedCommands.setting .commands
      (commandItems [System.earlierCommand]) := .commands rfl
  refine ⟨hlen, hd, hparty, hopen, by decide +kernel, ?_⟩
  obtain ⟨st, hst⟩ := hopen
  have hrun : Run ⟨.default, .none⟩ 64 (System.plain.log System.fetchingCommands)
      System.fetchedCommands := Run.plain System.fetchingCommands
  exact hrun.streams_show hparty rfl hshows hst hlen hd

end GroundLink.Connection
