import GroundLink.Proofs.Connection.Listening
import GroundLink.Proofs.Connection.Serving

/-!
# Whose requests are queued

A caller comes with a request and gets a ticket of its own. The request that is queued on the ticket
is the one that the caller came with, and it is queued at most once. A request that nobody waits for
asks for the server state.
-/

namespace GroundLink.Connection

open Protocol

variable {s : System} {t : Ticket} {x : Exchange}

/-! ### Exchanges -/

/-- A request goes on as it is, and it still has to be queued only if it has not been queued now. -/
structure Exchange.GoesOn (orders : List Command) (x x' : Exchange) : Prop where
  ticket : x'.ticket = x.ticket
  request : x'.request = x.request
  queueing : x'.stage = .queueing → x.stage = .queueing ∧ orders = []

lemma Exchange.goesOn_await {span : Time.Span} {now deadline : Nat} {x x' : Exchange}
    {ch : Channel} (hpoll : (x.await span now deadline ch).1 = .pending x')
    (orders : List Command) : x.GoesOn orders x' := by
  rcases x.await_cases span now deadline ch with h | ⟨e, h, -⟩ | ⟨r, h, -⟩
  all_goals rw [h] at hpoll
  · cases hpoll
    exact ⟨rfl, rfl, by rintro ⟨⟩⟩
  · cases hpoll
  · cases hpoll

lemma Exchange.goesOn_poll {span : Time.Span} {now : Nat} {x x' : Exchange} {ch : Channel}
    (hpoll : (x.poll span now ch).1 = .pending x') : x.GoesOn (x.orders ch) x' := by
  rw [poll] at hpoll
  rw [orders]
  cases hstage : x.stage with
  | awaiting deadline =>
    rw [hstage] at hpoll
    exact goesOn_await hpoll []
  | queueing =>
    rw [hstage] at hpoll
    dsimp only at hpoll ⊢
    split at hpoll
    case h_1 => exact goesOn_await hpoll _
    case h_2 hqueue =>
      cases hpoll
      refine ⟨rfl, rfl, fun _ => ⟨hstage, ?_⟩⟩
      rw [Channel.accepts, hqueue]
      exact if_neg (by rintro ⟨⟩)
    case h_3 => cases hpoll

/-! ### Operations -/

namespace Operation

variable {setting : Setting} {now : Nat} {op op' : Operation} {ch : Channel}

/-- The request of an operation goes on with it. -/
lemma goesOn_poll (hpoll : (op.poll setting now ch).1 = .pending op') {x' : Exchange}
    (hx : op'.exchange? = some x') : ∃ x, op.exchange? = some x ∧ x.GoesOn (op.orders ch) x' := by
  cases onward_of_poll hpoll with
  | send hpending | subscribe hpending | stream hpending =>
    cases hx
    exact ⟨_, rfl, Exchange.goesOn_poll hpending⟩
  | opened | fetch | inLine | asked | awaitState | close | closed | awaitStop => cases hx

end Operation

/-! ### Callers -/

namespace System

/-- The request that a caller comes with, and the ticket that it gets. -/
def asks (a : Act) (s : System) : List (Ticket × Request) :=
  match a with
  | .send r => if s.connected then [(⟨s.channel.nextTicket⟩, r)] else []
  | .subscribe r =>
    if s.connected ∧ r.topic? ≠ none then [(⟨s.channel.nextTicket⟩, r)] else []
  | .stream plan =>
    if s.connected ∧ (plan.request s.setting.config).topic? ≠ none then
      [(⟨s.channel.nextTicket⟩, plan.request s.setting.config)]
    else []
  | _ => []

/-- Where a caller with a request comes from in an act. -/
inductive Comes (a : Act) (s : System) (t : Ticket) (op : Operation) (x : Exchange) : Prop
  | stays : a ≠ .look t → s.parties.find? t = some (.calling op) → Comes a s t op x
  | looked {op' : Operation} {x' : Exchange} : a = .look t →
      s.parties.find? t = some (.calling op') → op'.exchange? = some x' →
      x'.GoesOn (s.orders a) x → Comes a s t op x
  | new : t = ⟨s.channel.nextTicket⟩ → s.asks a = [(t, x.request)] →
      (s.act a).channel.nextTicket = s.channel.nextTicket + 1 → Comes a s t op x

/-- A caller that begins with a request asks for it on its ticket. -/
lemma asks_of_beginning {a : Act} {start : Channel → Operation × Channel} {op : Operation}
    {ch : Channel} (hconnected : s.connected = true) (hstart : s.beginning? a = some start)
    (heq : start s.channel = (op, ch)) (hx : op.exchange? = some x) :
    s.asks a = [(⟨s.channel.nextTicket⟩, x.request)]
      ∧ ch.nextTicket = s.channel.nextTicket + 1 := by
  cases a with
  | send r =>
    cases hstart
    cases heq
    cases hx
    exact ⟨if_pos hconnected, rfl⟩
  | subscribe r =>
    cases hstart
    rw [asks]
    unfold Operation.startSubscribe at heq
    split at heq <;> cases heq
    · cases hx
    case h_2 htopic =>
      cases hx
      exact ⟨if_pos ⟨hconnected, by simp [htopic]⟩, rfl⟩
  | stream plan =>
    cases hstart
    rw [asks]
    unfold Operation.startStream at heq
    dsimp only at heq
    split at heq <;> cases heq
    · cases hx
    case h_2 htopic =>
      cases hx
      exact ⟨if_pos ⟨hconnected, by simp [htopic]⟩, rfl⟩
  | askState =>
    cases hstart
    cases heq
    cases hx
  | close =>
    rw [beginning?] at hstart
    split at hstart <;> cases hstart
    cases heq
    cases hx
  | _ => cases hstart

/-- A caller that is looked after goes on, and no caller comes so. -/
lemma comes_look {op : Operation} (hparty : (s.act (.look t)).parties.find? t = some (.calling op))
    (hx : op.exchange? = some x) : Comes (.look t) s t op x := by
  by_cases hcalling : ∃ op', s.parties.find? t = some (.calling op')
  · obtain ⟨op', hold⟩ := hcalling
    have hafter := (act_look_of_calling hold).1.symm.trans hparty
    obtain ⟨x', hx', hgoes⟩ := Operation.goesOn_poll (Party.after_eq_calling hafter) hx
    refine .looked rfl hold hx' ?_
    rwa [orders, hold]
  · rw [act_look_of_idle fun op' hold => hcalling ⟨op', hold⟩] at hparty
    exact absurd ⟨op, hparty⟩ hcalling

lemma comes_act {a : Act} {op : Operation}
    (hparty : (s.act a).parties.find? t = some (.calling op)) (hx : op.exchange? = some x) :
    Comes a s t op x := by
  by_cases ha : a = .look t
  · subst ha
    exact comes_look hparty hx
  · rcases hparty ▸ find_act a s t with hsame | hchanges
    · exact .stays ha hsame.symm
    · cases hchanges with
      | begun hconnected hstart _ heq =>
        obtain ⟨hasks, hnext⟩ := asks_of_beginning hconnected hstart heq hx
        exact .new rfl hasks hnext
      | looked => exact absurd rfl ha
      | @read _ p _ hfound hidle hread =>
        cases p with
        | calling op => cases hidle
        | holding | streaming => cases hread

end System

/-! ### Commands -/

/-- A command asks for what its caller has come with, or for the server state. -/
def Command.Stems (asked : List (Ticket × Request)) : Command → Prop
  | .send r (some w) => (w.ticket, r) ∈ asked
  | .send r none => r = .state
  | .close => True

lemma Operation.ticket_of_fits {op : Operation} (hfits : op.Fits t)
    (hx : op.exchange? = some x) : x.ticket = t := by
  cases op with
  | send | subscribe | stream =>
    cases hx
    exact hfits.1
  | _ => cases hx

/-- What an operation queues has no caller to be answered, or is the request of its caller. -/
lemma Operation.orders_cases (op : Operation) (ch : Channel) :
    (∀ c ∈ op.orders ch, c = .close ∨ c = .send .state none)
      ∨ ∃ x, op.exchange? = some x ∧ x.stage = .queueing ∧ op.orders ch = [x.command] := by
  have haccepts : ∀ t c, ch.accepts t c = [] ∨ ch.accepts t c = [c] := by
    intro t c
    rw [Channel.accepts]
    split
    · exact .inr rfl
    · exact .inl rfl
  have hexchange : ∀ x : Exchange, x.orders ch = []
      ∨ x.stage = .queueing ∧ x.orders ch = [x.command] := by
    intro x
    rw [Exchange.orders]
    split
    case h_1 hstage => exact (haccepts x.ticket x.command).imp_right fun h => ⟨hstage, h⟩
    case h_2 => exact .inl rfl
  cases op with
  | send x | subscribe topic x | stream plan topic x =>
    rcases hexchange x with hnone | ⟨hstage, hone⟩
    · refine .inl fun c hc => ?_
      rw [orders, hnone] at hc
      cases hc
    · exact .inr ⟨x, rfl, hstage, hone⟩
  | askState t l =>
    refine .inl fun c hc => .inr ?_
    rw [orders] at hc
    rcases haccepts t (.send .state none) with h | h
    all_goals
      rw [h] at hc
      cases hc
    · rfl
    · contradiction
  | close t =>
    refine .inl fun c hc => .inl ?_
    rw [orders] at hc
    rcases haccepts t .close with h | h
    all_goals
      rw [h] at hc
      cases hc
    · rfl
    · contradiction
  | refused | fetch | awaitState | awaitStop => exact .inl (List.forall_mem_nil _)

namespace System

lemma orders_cases (hfits : s.Fits) (a : Act) :
    (∀ c ∈ s.orders a, c = .close ∨ c = .send .state none)
      ∨ ∃ op x, s.parties.find? x.ticket = some (.calling op) ∧ op.exchange? = some x
        ∧ x.stage = .queueing ∧ a = .look x.ticket ∧ s.orders a = [x.command] := by
  cases a with
  | look t =>
    rw [orders]
    split
    case h_1 op hparty =>
      refine (op.orders_cases s.channel).imp_right ?_
      rintro ⟨x, hx, hstage, horders⟩
      obtain rfl := op.ticket_of_fits (hfits t _ hparty) hx
      exact ⟨op, x, hparty, hx, hstage, rfl, horders⟩
    case h_2 => exact .inl (List.forall_mem_nil _)
  | _ => exact .inl (List.forall_mem_nil _)

lemma tickets_cases (hfits : s.Fits) (a : Act) :
    (s.orders a).filterMap Command.ticket? = []
      ∨ ∃ op x, s.parties.find? x.ticket = some (.calling op) ∧ op.exchange? = some x
        ∧ x.stage = .queueing ∧ a = .look x.ticket
        ∧ (s.orders a).filterMap Command.ticket? = [x.ticket] := by
  rcases orders_cases hfits a with hnone | ⟨op, x, hparty, hx, hstage, ha, horders⟩
  · refine .inl (List.filterMap_eq_nil_iff.mpr fun c hc => ?_)
    rcases hnone c hc with rfl | rfl <;> rfl
  · exact .inr ⟨op, x, hparty, hx, hstage, ha, by rw [horders]; rfl⟩

/-- A caller that comes gets the next ticket. -/
lemma asks_cases (a : Act) (s : System) :
    s.asks a = []
      ∨ ∃ r, s.asks a = [(⟨s.channel.nextTicket⟩, r)]
        ∧ (s.act a).channel.nextTicket = s.channel.nextTicket + 1 := by
  cases a with
  | send r =>
    rw [asks, act, launch]
    split
    · exact .inr ⟨r, rfl, rfl⟩
    · exact .inl rfl
  | subscribe r =>
    rw [asks]
    split
    case isTrue h =>
      obtain ⟨topic, htopic⟩ := Option.ne_none_iff_exists'.mp h.2
      refine .inr ⟨r, rfl, ?_⟩
      rw [act, launch, if_pos h.1]
      simp only [Operation.startSubscribe, htopic]
      rfl
    case isFalse => exact .inl rfl
  | stream plan =>
    rw [asks]
    split
    case isTrue h =>
      obtain ⟨topic, htopic⟩ := Option.ne_none_iff_exists'.mp h.2
      refine .inr ⟨_, rfl, ?_⟩
      rw [act, launch, if_pos h.1]
      simp only [Operation.startStream, htopic]
      rfl
    case isFalse => exact .inl rfl
  | _ => exact .inl rfl

/-! ### What is kept -/

/-- How the commands that have been queued stand to what callers have come with. -/
structure Placed (asked : List (Ticket × Request)) (queued : List Command) (s : System) :
    Prop where
  /-- No two callers have the same ticket. -/
  own : (asked.map (·.1)).Nodup
  old : ∀ p ∈ asked, p.1.val < s.channel.nextTicket
  caller : ∀ t op x, s.parties.find? t = some (.calling op) → op.exchange? = some x →
    (t, x.request) ∈ asked ∧ (x.stage = .queueing → t ∉ queued.filterMap Command.ticket?)
  once : (queued.filterMap Command.ticket?).Nodup
  stems : ∀ c ∈ queued, c.Stems asked

variable {asked : List (Ticket × Request)} {queued : List Command}

lemma Placed.ticket_lt (h : Placed asked queued s)
    (ht : t ∈ queued.filterMap Command.ticket?) : t.val < s.channel.nextTicket := by
  obtain ⟨c, hc, hct⟩ := List.mem_filterMap.mp ht
  obtain ⟨r, w, rfl, rfl⟩ := Correlated.ticket_of_mem hct
  exact h.old _ (h.stems _ hc)

lemma Placed.act (h : Placed asked queued s) (hfits : s.Fits) (a : Act) :
    Placed (asked ++ s.asks a) (queued ++ s.orders a) (s.act a) where
  own := by
    rcases asks_cases a s with hnone | ⟨r, hask, -⟩
    · rw [hnone, List.append_nil]
      exact h.own
    · rw [hask, List.map_append, List.nodup_append]
      refine ⟨h.own, List.nodup_singleton _, ?_⟩
      rintro t ht u hu rfl
      obtain ⟨p, hp, rfl⟩ := List.mem_map.mp ht
      have hold := h.old p hp
      obtain heq := List.mem_singleton.mp hu
      exact absurd hold (by rw [heq]; exact Nat.lt_irrefl _)
  old := by
    intro p hp
    have hmono := nextTicket_act hfits a
    rcases List.mem_append.mp hp with hp | hp
    · exact Nat.lt_of_lt_of_le (h.old p hp) hmono
    · rcases asks_cases a s with hnone | ⟨r, hask, hnext⟩
      · rw [hnone] at hp
        cases hp
      · rw [hask] at hp
        obtain rfl := List.mem_singleton.mp hp
        rw [hnext]
        exact Nat.lt_succ_self _
  caller := by
    intro t op x hparty hx
    rw [List.filterMap_append, List.mem_append, List.mem_append]
    cases comes_act hparty hx with
    | stays hlook hold =>
      obtain ⟨hasked, hnot⟩ := h.caller t op x hold hx
      refine ⟨.inl hasked, fun hstage => ?_⟩
      rintro (hmem | hmem)
      · exact hnot hstage hmem
      · rcases tickets_cases hfits a with hnone | ⟨op', x', -, -, -, ha, hone⟩
        · rw [hnone] at hmem
          cases hmem
        · rw [hone, List.mem_singleton] at hmem
          exact hlook (hmem ▸ ha)
    | looked ha hold hx' hgoes =>
      obtain ⟨hasked, hnot⟩ := h.caller t _ _ hold hx'
      refine ⟨.inl (hgoes.request ▸ hasked), fun hstage => ?_⟩
      obtain ⟨hstage', horders⟩ := hgoes.queueing hstage
      rw [horders]
      rintro (hmem | hmem)
      · exact hnot hstage' hmem
      · cases hmem
    | new ht hask hnext =>
      refine ⟨.inr (hask ▸ List.mem_singleton_self _), fun hstage => ?_⟩
      rintro (hmem | hmem)
      · have hlt := h.ticket_lt hmem
        rw [ht] at hlt
        exact Nat.lt_irrefl _ hlt
      · rcases tickets_cases hfits a with hnone | ⟨op', x', -, -, -, rfl, -⟩
        · rw [hnone] at hmem
          cases hmem
        · cases hask
  once := by
    rw [List.filterMap_append]
    rcases tickets_cases hfits a with hnone | ⟨op, x, hparty, hx, hstage, -, hone⟩
    · rw [hnone, List.append_nil]
      exact h.once
    · rw [hone, List.nodup_append]
      refine ⟨h.once, List.nodup_singleton _, ?_⟩
      rintro t ht u hu rfl
      obtain rfl := List.mem_singleton.mp hu
      exact (h.caller _ op x hparty hx).2 hstage ht
  stems := by
    have hmore : ∀ c : Command, c.Stems asked → c.Stems (asked ++ s.asks a) := by
      intro c hc
      cases c with
      | close => trivial
      | send r w => cases w with
        | none => exact hc
        | some w => exact List.mem_append_left _ hc
    intro c hc
    rcases List.mem_append.mp hc with hc | hc
    · exact hmore c (h.stems c hc)
    · rcases orders_cases hfits a with hnone | ⟨op, x, hparty, hx, -, -, horders⟩
      · rcases hnone c hc with rfl | rfl
        · trivial
        · rfl
      · rw [horders] at hc
        obtain rfl := List.mem_singleton.mp hc
        exact hmore _ (h.caller _ op x hparty hx).1

/-- Along a run, each caller has a ticket of its own, and on each ticket the request that the caller
has come with is queued at most once. -/
theorem placed_play (setting : Setting) (textRoom : Nat) (as : List Act) :
    Placed (trace asks as (start setting textRoom)) (trace orders as (start setting textRoom))
      ((start setting textRoom).play as) := by
  induction as using List.reverseRecOn with
  | nil =>
    refine ⟨List.nodup_nil, List.forall_mem_nil _, ?_, List.nodup_nil, List.forall_mem_nil _⟩
    rintro t op x ⟨⟩
  | append_singleton as a ih =>
    rw [trace_append_singleton, trace_append_singleton, play_append_singleton]
    exact ih.act (Run.start.play as).steps.2.1 a

end System

end GroundLink.Connection
