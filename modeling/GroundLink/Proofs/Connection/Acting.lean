import GroundLink.Proofs.Connection.Calling

/-!
# The ledger of a system

Each act on a system is a few steps of its ledger. So what holds of all ledgers that steps lead to
holds along every run.
-/

namespace GroundLink.Connection

open Protocol

namespace System

def role (s : System) (t : Ticket) : Role := Party.roleOf (s.parties.find? t)

def ledger (s : System) : Ledger := s.channel.ledger s.role

/-- How long a reply may take, in nanoseconds. -/
def timeout (s : System) : Nat := s.setting.config.replyTimeout.nanos

/-- Whether all parties act on their own tickets. -/
def Fits (s : System) : Prop := ∀ t p, s.parties.find? t = some p → p.Fits t

/-! ### Parties -/

lemma role_of_party {s : System} {t : Ticket} {p : Party} (hparty : s.parties.find? t = some p) :
    s.role t = p.role := by
  rw [role, hparty]
  rfl

lemma find_put (t u : Ticket) (p : Option Party) (s : System) :
    (s.put t p).parties.find? u = if u = t then p else s.parties.find? u := by
  by_cases hu : u = t
  · subst hu
    cases p <;> simp [put]
  · rw [if_neg hu]
    cases p with
    | none => exact Table.find?_erase_of_ne (Ne.symm hu) _
    | some p => exact Table.find?_insert_of_ne (Ne.symm hu) _ _

lemma role_put (t : Ticket) (p : Option Party) (s : System) :
    (s.put t p).role = Function.update s.role t (Party.roleOf p) := by
  funext u
  rw [role, find_put, Function.update_apply]
  split <;> rfl

lemma ledger_put (t : Ticket) (p : Option Party) (s : System) :
    (s.put t p).ledger = s.channel.ledger (Function.update s.role t (Party.roleOf p)) := by
  rw [ledger, role_put]
  rfl

lemma Fits.put {s : System} {t : Ticket} {p : Option Party} (h : s.Fits)
    (hp : ∀ q, p = some q → q.Fits t) : (s.put t p).Fits := by
  intro u q hq
  rw [find_put] at hq
  split at hq
  case isTrue hu => exact hu ▸ hp q hq
  case isFalse => exact h u q hq

/-- The parts of a system that matter to the ledger, when nobody uses the connection any more. -/
lemma dropUnused_eq (s : System) :
    s.dropUnused.ledger = s.ledger ∧ s.dropUnused.parties = s.parties
      ∧ s.dropUnused.channel.isStopped = s.channel.isStopped
      ∧ s.dropUnused.setting = s.setting := by
  unfold dropUnused
  split <;> exact ⟨rfl, rfl, rfl, rfl⟩

/-! ### Beginnings -/

/-- What an operation begins with: a ticket of its own, or nothing. -/
structure Begins (τ : Nat) (ch : Channel) (result : Operation × Channel) : Prop where
  steps : ∀ ρ, (ch.ledger ρ).Steps τ []
    (result.2.ledger (Function.update ρ ⟨ch.nextTicket⟩ result.1.role))
  fits : result.1.Fits ⟨ch.nextTicket⟩
  running : result.2.isStopped = ch.isStopped

lemma steps_start {τ : Nat} (request : Request) (routed : Bool) (ch : Channel)
    (ρ : Ticket → Role) :
    (ch.ledger ρ).Steps τ []
      ((Exchange.start request routed ch).2.ledger
        (Function.update ρ ⟨ch.nextTicket⟩ (.caller (Exchange.start request routed ch).1))) := by
  have hmail : (Exchange.start request routed ch).2.mailbox
      = Function.update ch.mailbox ⟨ch.nextTicket⟩ (.start routed) := by
    funext u
    by_cases hu : u = ⟨ch.nextTicket⟩
    · subst hu
      simp [Channel.mailbox, Exchange.start, Channel.newTicket]
    · simp [Channel.mailbox, Exchange.start, Channel.newTicket, Function.update_of_ne hu,
        Table.find?_insert_of_ne (Ne.symm hu)]
  have henter := (Ledger.Step.enter (τ := τ) (l := ch.ledger ρ)
    (Exchange.start request routed ch).1 rfl rfl).steps
  unfold Channel.ledger
  rw [hmail]
  exact henter

lemma begins_send (τ : Nat) (request : Request) (ch : Channel) :
    Begins τ ch (Operation.startSend request ch) where
  steps := steps_start request false ch
  fits := ⟨rfl, rfl⟩
  running := rfl

lemma begins_ticket (τ : Nat) {op : Operation} {ch ch' : Channel}
    (hledger : ∀ ρ, ch'.ledger ρ = ch.newTicket.2.ledger ρ) (hstop : ch'.isStopped = ch.isStopped)
    (hrole : op.role = .none) (hfits : op.Fits ⟨ch.nextTicket⟩) :
    Begins τ ch (op, ch') where
  steps := by
    intro ρ
    rw [hrole, hledger]
    exact (Ledger.Step.ticket (l := ch.ledger ρ)).steps
  fits := hfits
  running := hstop

/-- An operation that opens a call begins, unless its request opens none. -/
lemma begins_subscribe (τ : Nat) (request : Request) (ch : Channel) :
    (∃ request', (Operation.startSubscribe request ch).1 = .refused request')
      ∨ Begins τ ch (Operation.startSubscribe request ch) := by
  unfold Operation.startSubscribe
  split
  · exact .inl ⟨request, rfl⟩
  · exact .inr ⟨steps_start request true ch, ⟨rfl, rfl⟩, rfl⟩

lemma begins_stream (τ : Nat) (config : Client.Config) (plan : Plan) (ch : Channel) :
    (∃ request, (Operation.startStream config plan ch).1 = .refused request)
      ∨ Begins τ ch (Operation.startStream config plan ch) := by
  unfold Operation.startStream
  dsimp only
  split
  · exact .inl ⟨_, rfl⟩
  · exact .inr ⟨steps_start _ true ch, ⟨rfl, rfl⟩, rfl⟩

/-! ### Acts -/

/-- What an act comes to: steps of the ledger with the notes of the act. -/
structure Takes (s : System) (h : List Note) (s' : System) : Prop where
  steps : s.ledger.Steps s.timeout (h ++ Channel.stopNotes s.channel s'.channel) s'.ledger
  fits : s'.Fits
  config : s'.setting.config = s.setting.config

/-- An act that the ledger does not see. -/
lemma Takes.unseen {s s' : System} (hs : s.Fits) (hledger : s'.ledger = s.ledger)
    (hparties : s'.parties = s.parties) (hconfig : s'.setting.config = s.setting.config) :
    Takes s [] s' where
  steps := by
    rw [Channel.stopNotes_of_eq (congrArg Ledger.stopped hledger), hledger]
    exact .refl _
  fits := by
    unfold Fits
    rw [hparties]
    exact hs
  config := hconfig

/-- Somebody does something with the connection on a ticket, and another party is there afterwards,
or nobody. -/
lemma Takes.put {s : System} {t : Ticket} {p : Option Party} {ch : Channel} {h : List Note}
    (hs : s.Fits) (hsteps : s.ledger.Steps s.timeout (h ++ Channel.stopNotes s.channel ch)
      (ch.ledger (Function.update s.role t (Party.roleOf p))))
    (hp : ∀ q, p = some q → q.Fits t) :
    Takes s h (System.put t p { s with channel := ch }) where
  steps := by
    rw [ledger_put]
    exact hsteps
  fits := .put hs hp
  config := rfl

/-- The dispatcher does not stop while somebody does so. -/
lemma Takes.put_running {s : System} {t : Ticket} {p : Option Party} {ch : Channel}
    {h : List Note} (hs : s.Fits) (hstop : ch.isStopped = s.channel.isStopped)
    (hsteps : s.ledger.Steps s.timeout h (ch.ledger (Function.update s.role t (Party.roleOf p))))
    (hp : ∀ q, p = some q → q.Fits t) : Takes s h (System.put t p { s with channel := ch }) := by
  refine .put hs ?_ hp
  rwa [Channel.stopNotes_of_eq hstop, List.append_nil]

lemma Takes.dropUnused {s s' : System} {h : List Note} (ht : Takes s h s') :
    Takes s h s'.dropUnused := by
  obtain ⟨hledger, hparties, hstop, hsetting⟩ := dropUnused_eq s'
  refine ⟨?_, ?_, by rw [hsetting]; exact ht.config⟩
  · rw [hledger, Channel.stopNotes, hstop]
    exact ht.steps
  · unfold Fits
    rw [hparties]
    exact ht.fits

/-- An operation begins, or is refused. -/
lemma takes_launch (start : Channel → Operation × Channel) {s : System} (hs : s.Fits)
    (h : (∃ request, (start s.channel).1 = .refused request)
      ∨ Begins s.timeout s.channel (start s.channel)) : Takes s [] (s.launch start) := by
  unfold launch
  split
  · split
    · exact .unseen hs rfl rfl rfl
    case h_2 op ch hop heq =>
      rw [heq] at h
      rcases h with ⟨request, hrefused⟩ | h
      · exact (hop request hrefused).elim
      · refine .put_running hs h.running (h.steps s.role) ?_
        rintro p ⟨⟩
        exact h.fits
  · exact .unseen hs rfl rfl rfl

lemma takes_look (t : Ticket) {s : System} (hs : s.Fits) :
    Takes s (s.doings (.look t)) (s.look t) := by
  cases hparty : s.parties.find? t with
  | none =>
    simp only [doings, look, hparty]
    exact .unseen hs rfl rfl rfl
  | some p => cases p with
    | calling op =>
      have hrole : s.role t = op.role := role_of_party hparty
      obtain ⟨hsteps, hfits⟩ := op.steps_poll s.setting s.now s.channel hrole (hs t _ hparty)
      simp only [doings, look, hparty]
      generalize op.pollNotes t s.setting s.now s.channel = notes at hsteps
      generalize op.poll s.setting s.now s.channel = poll at hsteps hfits
      obtain ⟨result, ch⟩ := poll
      cases result with
      | pending op' => exact .put hs hsteps hfits
      | ready result => exact (Takes.put hs hsteps hfits).dropUnused
    | holding sub =>
      simp only [doings, look, hparty]
      exact .unseen hs rfl rfl rfl
    | streaming st =>
      simp only [doings, look, hparty]
      exact .unseen hs rfl rfl rfl

lemma steps_abandon {τ : Nat} {ρ : Ticket → Role} {t : Ticket} {op : Operation}
    (ch : Channel) (hrole : ρ t = op.role) (hfits : op.Fits t) :
    (ch.ledger ρ).Steps τ (op.abandonNotes t)
        ((op.abandon ch).ledger (Function.update ρ t .none))
      ∧ (op.abandon ch).isStopped = ch.isStopped := by
  have hidle : ρ t = .none → (ch.ledger ρ).Steps τ []
      (ch.ledger (Function.update ρ t .none)) := by
    intro h
    rw [← h, Function.update_eq_self]
    exact .refl _
  have hforsake : ∀ x : Exchange, ρ t = .caller x → x.ticket = t →
      (ch.ledger ρ).Steps τ [.abandoned t]
        ((x.abandon ch).ledger (Function.update ρ t .none)) := by
    rintro x hx rfl
    have habandon := (Ledger.Step.abandon (τ := τ) (l := ch.ledger ρ) hx).steps
    change Ledger.Steps _ _ _ (Ledger.setRole _ _ (Ledger.setMailbox _ (ch.mailbox _).forsaken _))
      at habandon
    rw [← Channel.ledger_forsake, ← Channel.ledger_update] at habandon
    exact habandon
  cases op with
  | send x => exact ⟨hforsake x hrole hfits.1, rfl⟩
  | subscribe topic x => exact ⟨hforsake x hrole hfits.1, rfl⟩
  | stream plan topic x => exact ⟨hforsake x hrole hfits.1, rfl⟩
  | fetch plan sub due => exact sub.steps_release ch hrole hfits (.inl rfl)
  | _ => exact ⟨hidle hrole, rfl⟩

lemma takes_abandon (t : Ticket) {s : System} (hs : s.Fits) :
    Takes s (s.doings (.abandon t)) (s.abandon t) := by
  cases hparty : s.parties.find? t with
  | none =>
    simp only [doings, abandon, hparty]
    exact .unseen hs rfl rfl rfl
  | some p => cases p with
    | calling op =>
      have hrole : s.role t = op.role := role_of_party hparty
      obtain ⟨hsteps, hstop⟩ := steps_abandon (τ := s.timeout) s.channel hrole (hs t _ hparty)
      simp only [doings, abandon, hparty]
      exact (Takes.put_running (p := none) hs hstop hsteps (by rintro q ⟨⟩)).dropUnused
    | holding sub =>
      simp only [doings, abandon, hparty]
      exact .unseen hs rfl rfl rfl
    | streaming st =>
      simp only [doings, abandon, hparty]
      exact .unseen hs rfl rfl rfl

lemma takes_read (t : Ticket) {s : System} (hs : s.Fits) :
    Takes s (s.doings (.read t)) (s.read t) := by
  cases hparty : s.parties.find? t with
  | none =>
    simp only [doings, read, hparty]
    exact .unseen hs rfl rfl rfl
  | some p => cases p with
    | calling op =>
      simp only [doings, read, hparty]
      exact .unseen hs rfl rfl rfl
    | holding sub =>
      have hrole : s.role t = .consumer sub := role_of_party hparty
      obtain ⟨hsteps, ht, hstop⟩ :=
        sub.steps_poll (τ := s.timeout) s.channel hrole (hs t _ hparty)
      simp only [doings, read, hparty]
      exact .put_running hs hstop hsteps (by rintro q ⟨⟩; exact ht)
    | streaming st =>
      have hrole : s.role t = .consumer st.subscription := role_of_party hparty
      obtain ⟨hsteps, ht, hstop⟩ :=
        st.steps_poll (τ := s.timeout) s.channel hrole (hs t _ hparty)
      simp only [doings, read, hparty]
      exact .put_running hs hstop hsteps (by rintro q ⟨⟩; exact ht)

lemma takes_release (t : Ticket) {s : System} (hs : s.Fits) :
    Takes s (s.doings (.release t)) (s.release t) := by
  have hlet : ∀ sub : Subscription, s.role t = .consumer sub → sub.ticket = t →
      Takes s [.released t] (put t none { s with channel := (sub.release s.channel).2 }) := by
    intro sub hrole ht
    obtain ⟨hsteps, hstop⟩ :=
      sub.steps_release (τ := s.timeout) s.channel hrole ht (.inl rfl)
    exact .put_running hs hstop hsteps (by rintro q ⟨⟩)
  cases hparty : s.parties.find? t with
  | none =>
    simp only [doings, release, hparty]
    exact .unseen hs rfl rfl rfl
  | some p => cases p with
    | calling op =>
      simp only [doings, release, hparty]
      exact .unseen hs rfl rfl rfl
    | holding sub =>
      simp only [doings, release, hparty]
      exact hlet sub (role_of_party hparty) (hs t _ hparty)
    | streaming st =>
      simp only [doings, release, hparty]
      exact hlet st.subscription (role_of_party hparty) (hs t _ hparty)

/-- The dispatcher does its next task, if there is one. -/
lemma takes_dispatch {s : System} (hs : s.Fits) :
    Takes s (s.doings .dispatch) (s.act .dispatch) := by
  simp only [doings, act, Channel.step?_eq]
  cases htask : s.channel.task? with
  | none => exact .unseen hs rfl rfl rfl
  | some task => exact ⟨Channel.steps_perform htask, hs, rfl⟩

/-- Each act is a few steps of the ledger. -/
lemma takes_act (a : Act) {s : System} (hs : s.Fits) : Takes s (s.doings a) (s.act a) := by
  cases a with
  | send request => exact takes_launch _ hs (.inr (begins_send ..))
  | subscribe request => exact takes_launch _ hs (begins_subscribe ..)
  | stream plan => exact takes_launch _ hs (begins_stream ..)
  | askState =>
    exact takes_launch Operation.startState hs
      (.inr (begins_ticket _ (fun _ => rfl) rfl rfl trivial))
  | close =>
    simp only [doings, act, close]
    split
    · exact .unseen hs rfl rfl rfl
    · obtain ⟨hsteps, hfits, hconfig⟩ := takes_launch Operation.startClose hs
        (.inr (begins_ticket _ (fun _ => rfl) rfl rfl trivial))
      exact ⟨hsteps, hfits, hconfig⟩
  | look t => exact takes_look t hs
  | abandon t => exact takes_abandon t hs
  | read t => exact takes_read t hs
  | release t => exact takes_release t hs
  | listen =>
    simp only [doings, act, listen]
    split <;> exact .unseen hs rfl rfl rfl
  | hear l =>
    simp only [doings, act]
    split
    · refine .unseen hs ?_ rfl rfl
      obtain ⟨fanout, dropped, hmoves⟩ := s.channel.pollFrame_moves l
      rw [ledger, hmoves]
      rfl
    · exact .unseen hs rfl rfl rfl
  | leave l =>
    simp only [doings, act]
    split <;> exact .unseen hs rfl rfl rfl
  | disconnect =>
    have hleft : Takes s [] { s with connected := false } := .unseen hs rfl rfl rfl
    exact hleft.dropUnused
  | dispatch => exact takes_dispatch hs
  | push text =>
    refine .unseen hs ?_ rfl rfl
    simp only [act, ledger, Channel.push]
    split
    · rfl
    · split
      · rfl
      · split <;> rfl
  | hangUp | cutWriter | take | advance | archive => exact .unseen hs rfl rfl rfl

end System

/-! ### Runs -/

/-- Along a run, the parties act on their own tickets, and the ledger takes steps with the notes of
the run. -/
theorem Run.steps {setting : Setting} {textRoom : Nat} {h : List Note} {s : System}
    (hrun : Run setting textRoom h s) :
    Ledger.start.Steps setting.config.replyTimeout.nanos h s.ledger ∧ s.Fits
      ∧ s.setting.config = setting.config := by
  induction hrun with
  | start => exact ⟨.refl _, by rintro t p ⟨⟩, rfl⟩
  | act a _ ih =>
    obtain ⟨hsteps, hfits, hconfig⟩ := ih
    have hact := System.takes_act a hfits
    refine ⟨?_, hact.fits, hact.config.trans hconfig⟩
    have htail := hact.steps
    rw [System.timeout, hconfig] at htail
    exact hsteps.trans htail

end GroundLink.Connection
