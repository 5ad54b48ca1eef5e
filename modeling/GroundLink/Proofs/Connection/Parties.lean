import GroundLink.Proofs.Connection.Acting

/-!
# Who acts on a ticket

An act changes the party of one ticket at most. An operation begins on a new ticket. A caller that
is looked after goes on, keeps what has come of its operation, or leaves. A consumer that reads
stays one, and whoever lets go or gives up is gone. The connection itself stays with those who hold
it.
-/

namespace GroundLink.Connection

open Protocol

variable {s : System} {t : Ticket}

/-! ### Callers that go on -/

namespace Operation

variable {setting : Setting} {now : Nat} {op op' : Operation} {ch : Channel}

/-- What an operation goes on with. -/
inductive Onward (setting : Setting) (now : Nat) (ch : Channel) : Operation → Operation → Prop
  | send {x x' : Exchange} : (x.poll setting.config.replyTimeout now ch).1 = .pending x' →
      Onward setting now ch (.send x) (.send x')
  | subscribe {topic : Topic} {x x' : Exchange} :
      (x.poll setting.config.replyTimeout now ch).1 = .pending x' →
      Onward setting now ch (.subscribe topic x) (.subscribe topic x')
  | stream {plan : Plan} {topic : Topic} {x x' : Exchange} :
      (x.poll setting.config.replyTimeout now ch).1 = .pending x' →
      Onward setting now ch (.stream plan topic x) (.stream plan topic x')
  /-- The subscription is open, and the history has to be fetched. -/
  | opened {plan : Plan} {topic : Topic} {x : Exchange} {sub : Subscription} {due : Nat} :
      now < due → Onward setting now ch (.stream plan topic x) (.fetch plan sub due)
  | fetch {plan : Plan} {sub : Subscription} {due : Nat} :
      now < due → Onward setting now ch (.fetch plan sub due) (.fetch plan sub due)
  | inLine {t : Ticket} {l : ListenerId} :
      Onward setting now ch (.askState t l) (.askState t l)
  | asked {t : Ticket} {l : ListenerId} {deadline : Nat} :
      now < deadline → Onward setting now ch (.askState t l) (.awaitState l deadline)
  | awaitState {l : ListenerId} {deadline : Nat} :
      now < deadline → Onward setting now ch (.awaitState l deadline) (.awaitState l deadline)
  | close {t : Ticket} : Onward setting now ch (.close t) (.close t)
  | closed {t : Ticket} {deadline : Nat} :
      now < deadline → Onward setting now ch (.close t) (.awaitStop deadline)
  | awaitStop {deadline : Nat} :
      now < deadline → Onward setting now ch (.awaitStop deadline) (.awaitStop deadline)

lemma eq_of_pollFetch {plan : Plan} {sub : Subscription} {due : Nat}
    (hpoll : (pollFetch setting now plan sub due ch).1 = .pending op') :
    op' = .fetch plan sub due ∧ now < due := by
  unfold pollFetch at hpoll
  split at hpoll
  case isTrue hdue =>
    cases hpoll
    exact ⟨rfl, hdue⟩
  case isFalse => split at hpoll <;> cases hpoll

lemma eq_of_pollState {l : ListenerId} {deadline : Nat}
    (hpoll : (pollState setting now l deadline ch).1 = .pending op') :
    op' = .awaitState l deadline ∧ now < deadline := by
  unfold pollState at hpoll
  split at hpoll
  · cases hpoll
  · split at hpoll
    case isTrue => cases hpoll
    case isFalse hdue =>
      cases hpoll
      exact ⟨rfl, Nat.lt_of_not_le hdue⟩

lemma eq_of_pollStop {deadline : Nat} (hpoll : (pollStop now deadline ch).1 = .pending op') :
    op' = .awaitStop deadline ∧ now < deadline := by
  unfold pollStop at hpoll
  split at hpoll
  · cases hpoll
  · split at hpoll
    case isTrue => cases hpoll
    case isFalse hdue =>
      cases hpoll
      exact ⟨rfl, Nat.lt_of_not_le hdue⟩

lemma onward_of_poll (hpoll : (op.poll setting now ch).1 = .pending op') :
    Onward setting now ch op op' := by
  cases op with
  | send x =>
    rw [poll] at hpoll
    split at hpoll <;> cases hpoll
    case h_1 heq => exact .send (congrArg Prod.fst heq)
  | refused request => cases hpoll
  | subscribe topic x =>
    rw [poll] at hpoll
    split at hpoll <;> cases hpoll
    case h_1 heq => exact .subscribe (congrArg Prod.fst heq)
  | stream plan topic x =>
    rw [poll] at hpoll
    split at hpoll
    case h_1 heq =>
      cases hpoll
      exact .stream (congrArg Prod.fst heq)
    case h_2 =>
      split at hpoll
      case h_1 =>
        obtain ⟨rfl, hdue⟩ := eq_of_pollFetch hpoll
        exact .opened hdue
      case h_2 => cases hpoll
    case h_3 => cases hpoll
  | fetch plan sub due =>
    obtain ⟨rfl, hdue⟩ := eq_of_pollFetch hpoll
    exact .fetch hdue
  | askState t l =>
    rw [poll] at hpoll
    split at hpoll
    case h_1 =>
      obtain ⟨rfl, hdue⟩ := eq_of_pollState hpoll
      exact .asked hdue
    case h_2 =>
      cases hpoll
      exact .inLine
    case h_3 => cases hpoll
  | awaitState l deadline =>
    obtain ⟨rfl, hdue⟩ := eq_of_pollState hpoll
    exact .awaitState hdue
  | close t =>
    rw [poll] at hpoll
    split at hpoll
    case h_1 =>
      cases hpoll
      exact .close
    case h_2 =>
      obtain ⟨rfl, hdue⟩ := eq_of_pollStop hpoll
      exact .closed hdue
  | awaitStop deadline =>
    obtain ⟨rfl, hdue⟩ := eq_of_pollStop hpoll
    exact .awaitStop hdue

end Operation

namespace Party

lemma keeping_ne_calling (result : Except Client.Error Outcome) (op : Operation) :
    keeping result ≠ some (.calling op) := by
  cases result with
  | error e => exact nofun
  | ok o => cases o <;> exact nofun

/-- Only who goes on is a caller after a look. -/
lemma after_eq_calling {result : Poll Operation Outcome} {op : Operation}
    (hafter : after result = some (.calling op)) : result = .pending op := by
  cases result with
  | pending op' =>
    obtain rfl : op' = op := by injection hafter with hparty; injection hparty
    rfl
  | ready result => exact absurd hafter (keeping_ne_calling result op)

end Party

/-! ### Acts -/

namespace System

/-- What an operation begins with, if an act is the beginning of one. -/
def beginning? (a : Act) (s : System) : Option (Channel → Operation × Channel) :=
  match a with
  | .send request => some (Operation.startSend request)
  | .subscribe request => some (Operation.startSubscribe request)
  | .stream plan => some (Operation.startStream s.setting.config plan)
  | .askState => some Operation.startState
  | .close => if s.isBusy then none else some Operation.startClose
  | _ => none

/-- How an act changes the party of a ticket. -/
inductive Changes (s : System) : Act → Ticket → Option Party → Prop
  | begun {a : Act} {start : Channel → Operation × Channel} {op : Operation} :
      s.connected = true → s.beginning? a = some start → (∀ request, op ≠ .refused request) →
      start s.channel = (op, (s.act a).channel) →
      Changes s a ⟨s.channel.nextTicket⟩ (some (.calling op))
  | looked {t : Ticket} {op : Operation} {p : Option Party} :
      s.parties.find? t = some (.calling op) →
      Party.after (op.poll s.setting s.now s.channel).1 = p → Changes s (.look t) t p
  | abandoned {t : Ticket} {op : Operation} : s.parties.find? t = some (.calling op) →
      Changes s (.abandon t) t none
  | read {t : Ticket} {p q : Party} : s.parties.find? t = some p → p.isCalling = false →
      (p.read s.channel).1 = q → Changes s (.read t) t (some q)
  | released {t : Ticket} {p : Party} : s.parties.find? t = some p → p.isCalling = false →
      Changes s (.release t) t none

lemma Changes.put {a : Act} {u : Ticket} {q : Option Party} {s' : System}
    (hq : s.Changes a u q) (hparties : s'.parties = s.parties) (t : Ticket) :
    (s'.put u q).parties.find? t = s.parties.find? t
      ∨ s.Changes a t ((s'.put u q).parties.find? t) := by
  rw [find_put, hparties]
  split
  case isTrue htu => exact .inr (htu ▸ hq)
  case isFalse => exact .inl rfl

lemma find_launch {a : Act} {start : Channel → Operation × Channel}
    (hstart : s.beginning? a = some start) (hparties : (s.act a).parties = (s.launch start).parties)
    (hchannel : (s.act a).channel = (s.launch start).channel) (t : Ticket) :
    (s.act a).parties.find? t = s.parties.find? t
      ∨ s.Changes a t ((s.act a).parties.find? t) := by
  rw [hparties]
  by_cases hconnected : s.connected = true
  · rw [launch, if_pos hconnected] at hchannel ⊢
    split at hchannel
    case h_1 => exact .inl rfl
    case h_2 op ch hop heq =>
      have hbegun := Changes.begun hconnected hstart hop (heq.trans (congrArg _ hchannel.symm))
      exact hbegun.put rfl t
  · exact .inl (by rw [launch, if_neg hconnected])

lemma isCalling_of_ne {p : Party} (hp : ∀ op, p ≠ .calling op) : p.isCalling = false := by
  cases p with
  | calling op => exact absurd rfl (hp op)
  | holding | streaming => rfl

/-- An act changes the party of a ticket in one of these ways, if it changes it. -/
theorem find_act (a : Act) (s : System) (t : Ticket) :
    (s.act a).parties.find? t = s.parties.find? t
      ∨ s.Changes a t ((s.act a).parties.find? t) := by
  cases a with
  | send | subscribe | stream | askState => exact find_launch rfl rfl rfl t
  | close =>
    by_cases hbusy : s.isBusy = true
    · exact .inl (by rw [act, close, if_pos hbusy])
    · have hstart : s.beginning? .close = some Operation.startClose := if_neg hbusy
      exact find_launch hstart (by rw [act, close, if_neg hbusy])
        (by rw [act, close, if_neg hbusy]) t
  | look u =>
    rw [act, look]
    split
    case h_1 op hparty =>
      have hlooked := Changes.looked hparty rfl
      split
      all_goals
        rename_i hpoll
        rw [hpoll] at hlooked
      · exact hlooked.put rfl t
      · rw [(dropUnused_eq _).2.1]
        exact hlooked.put rfl t
    case h_2 => exact .inl rfl
  | abandon u =>
    rw [act, abandon]
    split
    case h_1 op hparty =>
      rw [(dropUnused_eq _).2.1]
      exact (Changes.abandoned hparty).put rfl t
    case h_2 => exact .inl rfl
  | read u =>
    rw [act, System.read]
    split
    · exact .inl rfl
    · exact .inl rfl
    case h_3 p hcalling hparty =>
      exact (Changes.read hparty (isCalling_of_ne hcalling) rfl).put rfl t
  | release u =>
    rw [act, release]
    split
    · exact .inl rfl
    · exact .inl rfl
    case h_3 p hcalling hparty =>
      exact (Changes.released hparty (isCalling_of_ne hcalling)).put rfl t
  | disconnect =>
    rw [act, (dropUnused_eq _).2.1]
    exact .inl rfl
  | listen | hear | leave =>
    simp only [act, listen]
    split <;> exact .inl rfl
  | _ => exact .inl rfl

/-- Parties come with new tickets only. -/
lemma party_of_find_act {a : Act} {p : Party} (ht : t.val < s.channel.nextTicket)
    (hp : (s.act a).parties.find? t = some p) : ∃ q, s.parties.find? t = some q := by
  rcases hp ▸ find_act a s t with hsame | hchanges
  · exact ⟨p, hsame.symm⟩
  · cases hchanges with
    | begun => exact absurd ht (Nat.lt_irrefl _)
    | looked hparty | read hparty => exact ⟨_, hparty⟩

/-- A consumer that does not read stays as it is, or leaves. -/
lemma party_of_act {a : Act} (ha : a ≠ .read t) {p : Party} (ht : t.val < s.channel.nextTicket)
    (hidle : ∀ op, s.parties.find? t ≠ some (.calling op))
    (hparty : (s.act a).parties.find? t = some p) : s.parties.find? t = some p := by
  rcases hparty ▸ find_act a s t with hsame | hchanges
  · exact hsame.symm
  · cases hchanges with
    | begun => exact absurd ht (Nat.lt_irrefl _)
    | looked hcalling => exact absurd hcalling (hidle _)
    | read => exact absurd rfl ha

/-! ### Acts of one party -/

lemma act_look_of_calling {op : Operation} (hparty : s.parties.find? t = some (.calling op)) :
    (s.act (.look t)).parties.find? t
        = Party.after (op.poll s.setting s.now s.channel).1
      ∧ ∀ op', (op.poll s.setting s.now s.channel).1 = .pending op' →
        (s.act (.look t)).channel = (op.poll s.setting s.now s.channel).2 := by
  rw [act, look, hparty]
  dsimp only
  rcases op.poll s.setting s.now s.channel with ⟨op' | result, ch⟩
  · exact ⟨(find_put ..).trans (if_pos rfl), fun _ _ => rfl⟩
  · refine ⟨?_, by rintro op' ⟨⟩⟩
    dsimp only
    rw [(dropUnused_eq _).2.1, find_put, if_pos rfl]
    rfl

/-- Only callers are looked after. -/
lemma act_look_of_idle (hidle : ∀ op, s.parties.find? t ≠ some (.calling op)) :
    s.act (.look t) = s := by
  rw [act, look]
  split
  case h_1 op hparty => exact absurd hparty (hidle op)
  case h_2 => rfl

lemma act_abandon_of_calling {op : Operation} (hparty : s.parties.find? t = some (.calling op)) :
    (s.act (.abandon t)).parties.find? t = none := by
  rw [act, abandon, hparty]
  dsimp only
  rw [(dropUnused_eq _).2.1, find_put, if_pos rfl]

lemma act_read_of_party {p : Party} (hparty : s.parties.find? t = some p)
    (hp : p.isCalling = false) :
    (s.act (.read t)).parties.find? t = some (p.read s.channel).1
      ∧ (s.act (.read t)).channel = (p.read s.channel).2 := by
  cases p with
  | calling op => cases hp
  | holding sub | streaming st =>
    simp only [act, read, hparty]
    exact ⟨by rw [find_put, if_pos rfl], rfl⟩

/-- Only consumers read. -/
lemma act_read_of_idle (hidle : ∀ p, s.parties.find? t = some p → p.isCalling = true) :
    s.act (.read t) = s ∧ s.notes (.read t) = [] := by
  have hsame : Channel.stopNotes s.channel s.channel = [] := Channel.stopNotes_of_eq rfl
  cases hparty : s.parties.find? t with
  | none =>
    have hact : s.act (.read t) = s := by rw [act, System.read, hparty]
    refine ⟨hact, ?_⟩
    rw [notes, hact, hsame, List.append_nil]
    simp only [doings, hparty]
  | some p => cases p with
    | calling op =>
      have hact : s.act (.read t) = s := by rw [act, System.read, hparty]
      refine ⟨hact, ?_⟩
      rw [notes, hact, hsame, List.append_nil]
      simp only [doings, hparty]
    | holding | streaming => cases hidle _ hparty

/-! ### Who holds the connection -/

/-- Whether an act leaves the connection itself to whoever holds it. -/
def Act.isKeeping : Act → Bool
  | .disconnect | .close => false
  | _ => true

/-- Who holds the connection after an act, and who listens to it. -/
inductive Holders (s : System) : Act → Bool → List ListenerId → Prop
  | same {a : Act} : a.isKeeping = true → Holders s a s.connected s.listeners
  | closed : Holders s .close false s.listeners
  | disconnected : Holders s .disconnect false s.listeners
  | listened : s.connected = true →
      Holders s .listen s.connected (⟨s.channel.fanout.nextListener⟩ :: s.listeners)
  | left {l : ListenerId} : Holders s (.leave l) s.connected (s.listeners.filter (· ≠ l))

lemma Holders.of_eq {a : Act} {s' : System} (hkeeping : a.isKeeping = true)
    (hsame : s'.connected = s.connected ∧ s'.listeners = s.listeners) :
    s.Holders a s'.connected s'.listeners := by
  rw [hsame.1, hsame.2]
  exact .same hkeeping

lemma holders_launch (start : Channel → Operation × Channel) (s : System) :
    (s.launch start).connected = s.connected ∧ (s.launch start).listeners = s.listeners := by
  unfold launch
  split
  · split <;> exact ⟨rfl, rfl⟩
  · exact ⟨rfl, rfl⟩

lemma holders_dropUnused (s : System) :
    s.dropUnused.connected = s.connected ∧ s.dropUnused.listeners = s.listeners := by
  unfold dropUnused
  split <;> exact ⟨rfl, rfl⟩

/-- Whoever acts on a ticket leaves the connection to those who hold it. -/
theorem holders_act (a : Act) (s : System) :
    s.Holders a (s.act a).connected (s.act a).listeners := by
  cases a with
  | send | subscribe | stream | askState =>
    exact .of_eq rfl (holders_launch ..)
  | close =>
    rw [act, close]
    split
    · exact .closed
    · rw [(holders_launch Operation.startClose s).2]
      exact .closed
  | look t =>
    refine .of_eq rfl ?_
    rw [act, look]
    split
    · split
      · exact ⟨rfl, rfl⟩
      · exact holders_dropUnused _
    · exact ⟨rfl, rfl⟩
  | abandon t =>
    refine .of_eq rfl ?_
    rw [act, abandon]
    split
    · exact holders_dropUnused _
    · exact ⟨rfl, rfl⟩
  | read t =>
    refine .of_eq rfl ?_
    rw [act, System.read]
    split <;> exact ⟨rfl, rfl⟩
  | release t =>
    refine .of_eq rfl ?_
    rw [act, release]
    split <;> exact ⟨rfl, rfl⟩
  | listen =>
    rw [act, listen]
    split
    case isTrue hconnected => exact .listened hconnected
    case isFalse => exact .same rfl
  | hear l =>
    simp only [act]
    split <;> exact .same rfl
  | leave l =>
    simp only [act]
    split
    · exact .left
    · exact .same rfl
  | disconnect =>
    rw [act, (holders_dropUnused _).1, (holders_dropUnused _).2]
    exact .disconnected
  | dispatch | push | hangUp | cutWriter | take | advance | archive =>
    exact .same rfl

end System

end GroundLink.Connection
