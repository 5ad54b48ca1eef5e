import GroundLink.Proofs.Connection.Cancelling
import GroundLink.Proofs.Connection.Reusing
import GroundLink.Proofs.Connection.Yielding

/-!
# Parting

A consumer lets its call go. The dispatcher cancels the call once and has no route for it any more.
Events that still come for it are counted. Those who hold other calls find all the events of theirs,
as before.
-/

namespace GroundLink.Connection

open Protocol

variable {τ : Nat} {h h' : List Note} {l l' : Ledger} {t : Ticket} {c : CallId}

/-! ### Routes -/

/-- A call whose cancel has got its number has no route. -/
def Unrouted (h : List Note) (l : Ledger) : Prop :=
  ∀ c, cancelNumbers c h ≠ [] → l.routes.find? c = none

lemma Table.find?_erase_of_none {κ α : Type} [DecidableEq κ] {j k : κ} {r : Table κ α}
    (hk : r.find? k = none) : (r.erase j).find? k = none := by
  by_cases hj : j = k
  · rw [hj, find?_erase_self]
  · rw [find?_erase_of_ne hj, hk]

namespace Unrouted

/-- No cancel gets its number, and no route is opened. -/
lemma frame (hu : Unrouted h l)
    (hcancelled : ∀ c, cancelNumbers c (h ++ h') = cancelNumbers c h)
    (hroutes : ∀ c, l.routes.find? c = none → l'.routes.find? c = none) :
    Unrouted (h ++ h') l' := by
  intro c hc
  rw [hcancelled] at hc
  exact hroutes c (hu c hc)

/-- A cancel gets its number, and the route of its call is given up. -/
lemma cancel (hu : Unrouted h l) (c : CallId) (rest : List CallId) :
    Unrouted (h ++ [.cancelled l.nextId c]) (l.cancelling c rest) := by
  intro c' hc'
  rw [Ledger.cancelling]
  by_cases hc : c = c'
  · rw [hc, Table.find?_erase_self]
  · have hnone : (Note.cancelled l.nextId c).cancels? c' = none := if_neg hc
    rw [cancelNumbers_of_none hnone] at hc'
    exact Table.find?_erase_of_none (hu c' hc')

/-- A reply opens a route. A call that has been cancelled was opened by another request, and no two
requests open the same call. -/
lemma resolve (hu : Unrouted h l) (ht : Tended h l) (hd : CallsDistinct (h ++ h'))
    (id : RequestId) {w : Waiter} {r : Reply} (ha : Tended.Answered w.ticket r h h')
    (hrouted : (story w.ticket h).routed = w.routed)
    (hroutes : l'.routes = (l.resolving id w r).routes) : Unrouted (h ++ h') l' := by
  cases hcall : Channel.opened? w r with
  | none =>
    refine hu.frame ha.cancelled fun c hc => ?_
    rwa [hroutes, Ledger.resolving_routes_of_none hcall]
  | some c =>
    have hopened : (story w.ticket (h ++ h')).opened = some c := by
      rw [ha.opened, hrouted]
      exact hcall
    intro c' hc'
    rw [ha.cancelled] at hc'
    have hne : c ≠ c' := by
      rintro rfl
      have hcount : l.cancelCount c h ≠ 0 := by
        rw [Ledger.cancelCount]
        have := List.length_pos_of_ne_nil hc'
        omega
      obtain ⟨u, hopen, -⟩ := ht.unwanted c hcount
      obtain rfl := hd (story_opened_append hopen) hopened
      rw [Story.opened_of_unanswered ha.unanswered] at hopen
      cases hopen
    rw [hroutes, Ledger.resolving_routes_of_some hcall, Table.find?_insert_of_ne hne]
    exact hu c' hc'

/-- No step opens a route for a call that has been cancelled. -/
lemma step (hu : Unrouted h l) (hc : Correlated τ h l) (ht : Tended h l)
    (hd : CallsDistinct (h ++ h')) (hs : Ledger.Step τ l h' l') : Unrouted (h ++ h') l' := by
  have hnil : ∀ c, cancelNumbers c (h ++ []) = cancelNumbers c h := by
    intro c
    rw [List.append_nil]
  have hone : ∀ {n : Note}, (∀ c, n.cancels? c = none) →
      ∀ c, cancelNumbers c (h ++ [n]) = cancelNumbers c h :=
    fun hn c => cancelNumbers_of_none (hn c)
  cases hs with
  | cancel => exact hu.cancel _ _
  | stop => exact fun _ _ => rfl
  | unroute => exact hu.frame (hone fun _ => rfl) fun _ => Table.find?_erase_of_none
  | @answer id w r hrun hid hfind hwaiting =>
    obtain ⟨hnumber, hrouted, hanswer, -⟩ := hc.pending id w (Table.mem_of_find? hfind)
    exact hu.resolve ht hd id (Tended.answered_of_reply hc.apart hid hnumber hanswer)
      hrouted rfl
  | @late id w r hrun hid hfind hgone =>
    obtain ⟨hnumber, hrouted, hanswer, -⟩ := hc.pending id w (Table.mem_of_find? hfind)
    exact hu.resolve ht hd id (Tended.answered_of_reply hc.apart hid hnumber hanswer)
      hrouted rfl
  | release hrole hstate hnote | drop hrole hstate hnote =>
    refine hu.frame (hone fun c => ?_) fun _ => id
    rcases hnote with rfl | ⟨e, rfl⟩ <;> rfl
  | enter | ticket | order | «open» | close | sweep | write => exact hu.frame hnil fun _ => id
  | queue | fail | finish | abandon | tell | read | number | forgotten | pass | deliver | miss
  | other => exact hu.frame (hone fun _ => rfl) fun _ => id

end Unrouted

/-- Calls that have been cancelled have no routes, wherever steps lead. -/
lemma unrouted_of_steps (hs : Ledger.start.Steps τ h l)
    (hlen : (numbered h).length ≤ UInt64.size) (hd : CallsDistinct h) : Unrouted h l := by
  refine hs.invariant_correlated (P := fun h l => CallsDistinct h → Unrouted h l)
    (fun _ _ _ => rfl) ?_ hlen hd
  intro h h' l l' hs hlen hc hu hstep hd
  have hd' := hd.of_append
  exact (hu hd').step hc (tended_of_steps hs hlen hd') hd hstep

/-! ### Those who have left -/

lemma ending_of_steps (hs : Ledger.start.Steps τ h l) (hmore : l.Steps τ h' l')
    (hlen : (numbered (h ++ h')).length ≤ UInt64.size) (hend : (story t h).ending ≠ none) :
    (story t (h ++ h')).ending = (story t h).ending := by
  induction hmore with
  | refl => rw [List.append_nil]
  | tail first last ih =>
    rw [← List.append_assoc] at hlen ⊢
    have hlen' := numbered_length_of_append hlen
    have hsteps := hs.trans first
    have hsame := ih hlen'
    rw [story_ending_step (assigned_of_steps hsteps hlen') (correlated_of_steps hsteps hlen') last
      (hsame ▸ hend), hsame]

lemma System.steps_play {s : System} (hs : s.Fits) (as : List Act) :
    s.ledger.Steps s.timeout (s.log as) (s.play as).ledger := by
  induction as generalizing s with
  | nil => exact .refl _
  | cons a as ih =>
    have hact := takes_act a hs
    have hrest := ih hact.fits
    rw [timeout, hact.config] at hrest
    exact hact.steps.trans hrest

/-- However a run goes on, those who have left have left as they did. -/
lemma Run.ending_play {setting : Setting} {textRoom : Nat} {s : System}
    (hrun : Run setting textRoom h s) (as : List System.Act)
    (hlen : (numbered (h ++ s.log as)).length ≤ UInt64.size) (hend : (story t h).ending ≠ none) :
    (story t (h ++ s.log as)).ending = (story t h).ending := by
  obtain ⟨hsteps, hfits, hconfig⟩ := hrun.steps
  have hmore := System.steps_play hfits as
  rw [System.timeout, hconfig] at hmore
  exact ending_of_steps hsteps hmore hlen hend

/-! ### What is left -/

/-- All events of a call since the reply that has opened it have been read, or are in the queue of
the one who holds the call. -/
structure Receives (h : List Note) (s : System) (t : Ticket) (c : CallId) : Prop where
  ending : (story t h).ending = none
  since : ∃ before r after, h = before ++ .handled (.reply r) :: after
    ∧ replyOf t before = none ∧ replyOf t h = some r ∧ r.rejection = none ∧ r.call = some c
    ∧ (story t h).read ++ (s.channel.mailbox t).events = eventsOf c after

/-- What is left of a call that its consumer has let go. -/
structure Parted (t : Ticket) (c : CallId) (h : List Note) (s : System) : Prop where
  /-- When the dispatcher runs with no cancel and no text left to write, it has cancelled the call
  once, and has no route for it. -/
  drained : s.channel.isStopped = false → s.channel.cancels = [] → s.channel.hand = [] →
    (∃ id, ownCancels c h s.channel.written = [⟨id, .cancel c⟩])
      ∧ s.channel.routes.find? c = none
  /-- An event of the call is counted. -/
  counted : ∀ text rest u, s.channel.task? = some (.receive text rest) →
    Frame.decode text = .event u → u.call = c →
    Channel.Counted s.channel (s.act .dispatch).channel
  /-- An event of a call that somebody wants goes into the queue of who wants it. -/
  wanted : ∀ text rest u v, s.channel.task? = some (.receive text rest) →
    Frame.decode text = .event u → (story v h).opened = some u.call → (story v h).ending = none →
    Channel.Put v u s.channel (s.act .dispatch).channel
  /-- Whoever holds a call holds another one, and finds all of its events. -/
  others : ∀ v p sub, s.parties.find? v = some p → p.role = .consumer sub →
    v ≠ t ∧ sub.call ≠ c ∧ Receives h s v sub.call

variable {setting : Setting} {textRoom : Nat} {s : System}

/-- When the dispatcher has nothing left to write, a call that has been let go is cancelled, and has
no route. -/
lemma Run.drained (hrun : Run setting textRoom h s) (hlen : (numbered h).length ≤ UInt64.size)
    (hd : CallsDistinct h) (hopen : (story t h).opened = some c)
    (hend : (story t h).ending = some .released) (hrunning : s.channel.isStopped = false)
    (hcancels : s.channel.cancels = []) (hhand : s.channel.hand = []) :
    (∃ id, ownCancels c h s.channel.written = [⟨id, .cancel c⟩])
      ∧ s.channel.routes.find? c = none := by
  obtain ⟨hsteps, -, -⟩ := hrun.steps
  have hn := numbered_of_steps hsteps
  have ht := tended_of_steps hsteps hlen hd
  have hcount := ht.cancelled hrunning t c hopen (by simp [hend]) (by simp [hend])
  have hle := ht.once c
  rw [Ledger.cancelCount, show s.ledger.cancels = [] from hcancels, List.count_nil,
    Nat.zero_add] at hcount hle
  obtain ⟨id, hid⟩ := List.length_eq_one_iff.mp (by omega : (cancelNumbers c h).length = 1)
  refine ⟨⟨id, ?_⟩, ?_⟩
  · -- All requests with numbers have been written, the only cancel of the call among them.
    have hall := hn.running hrunning
    rw [show s.ledger.hand = [] from hhand, List.append_nil] at hall
    refine List.perm_singleton.mp ((List.perm_ext_iff_of_nodup (hn.nodup_ownCancels hlen)
      (List.nodup_singleton _)).mpr fun r => ?_)
    rw [hn.mem_ownCancels hlen, hid, hall, List.mem_singleton]
    constructor
    · rintro ⟨-, id', hid', rfl⟩
      rw [List.mem_singleton.mp hid']
    · rintro rfl
      refine ⟨mem_numbered_of_cancelNumbers ?_, id, List.mem_singleton_self _, rfl⟩
      rw [hid]
      exact List.mem_singleton_self _
  · exact unrouted_of_steps hsteps hlen hd c (by simp [hid])

/-- An event goes into the queue of who wants it. Where nobody does any more, it is counted. -/
lemma Run.event_goes (hrun : Run setting textRoom h s)
    (hlen : (numbered h).length ≤ UInt64.size) (hd : CallsDistinct h) {text : String}
    {rest : List String} {u : Update} (htask : s.channel.task? = some (.receive text rest))
    (htext : Frame.decode text = .event u) (hopen : (story t h).opened = some u.call) :
    ((story t h).ending = none → Channel.Put t u s.channel (s.act .dispatch).channel)
      ∧ ((story t h).ending ≠ none →
        Channel.Counted s.channel (s.act .dispatch).channel) := by
  obtain ⟨hsteps, -, -⟩ := hrun.steps
  have ht := tended_of_steps hsteps hlen hd
  have hrunning : s.ledger.stopped = false := Channel.isStopped_of_task htask
  have hact : (s.act .dispatch).channel = s.channel.perform (.receive text rest) := by
    simp only [System.act, Channel.step?_eq, htask]
    rfl
  rw [hact]
  rcases Channel.perform_event rest s.channel htext with
    ⟨v, hfind, hlistening, hput⟩ | ⟨hnobody, hcounted⟩
  · -- The route leads to the one request that has opened the call.
    obtain rfl := hd (ht.routed u.call v hfind) hopen
    exact ⟨fun _ => hput, absurd (ht.listening hrunning v hlistening)⟩
  · refine ⟨fun hend => ?_, fun _ => hcounted⟩
    obtain ⟨hfind, hlistening⟩ := ht.route hrunning t u.call hopen hend
    exact absurd hlistening (Bool.eq_false_iff.mp (hnobody t hfind))

lemma Run.receives (hrun : Run setting textRoom h s)
    (hlen : (numbered h).length ≤ UInt64.size) (hd : CallsDistinct h) {p : Party}
    {sub : Subscription} (hparty : s.parties.find? t = some p) (hrole : p.role = .consumer sub) :
    (story t h).opened = some sub.call ∧ Receives h s t sub.call := by
  obtain ⟨hsteps, -, -⟩ := hrun.steps
  have hrole' : s.ledger.role t = .consumer sub := (System.role_of_party hparty).trans hrole
  obtain ⟨hopen, hend, -⟩ := (tended_of_steps hsteps hlen hd).consumer t sub hrole'
  obtain ⟨before, r, after, hsplit, hnone, hanswer, hrejection, hcall, harrived⟩ :=
    story_arrived hopen hend
  rw [story_answer] at hnone hanswer
  have hqueue : (story t h).read ++ (s.channel.mailbox t).events = (story t h).arrived :=
    (delivered_of_steps hsteps hlen hd).queue t (by simp [hrole'])
  exact ⟨hopen, hend, before, r, after, hsplit, hnone, hanswer, hrejection, hcall,
    hqueue.trans harrived⟩

/-- In every run in which no two replies open the same call, nothing is left of a call that has been
let go, and those who hold other calls find their events. -/
theorem Run.parted (hrun : Run setting textRoom h s) (hlen : (numbered h).length ≤ UInt64.size)
    (hd : CallsDistinct h) (hopen : (story t h).opened = some c)
    (hend : (story t h).ending = some .released) : Parted t c h s where
  drained := hrun.drained hlen hd hopen hend
  counted := by
    rintro text rest u htask htext rfl
    exact (hrun.event_goes hlen hd htask htext hopen).2 (by simp [hend])
  wanted := fun text rest u v htask htext hv => (hrun.event_goes hlen hd htask htext hv).1
  others := by
    intro v p sub hparty hrole
    obtain ⟨hv, hreceives⟩ := hrun.receives hlen hd hparty hrole
    have hne : v ≠ t := by
      rintro rfl
      rw [hreceives.ending] at hend
      cases hend
    refine ⟨hne, ?_, hreceives⟩
    rintro rfl
    exact hne (hd hv hopen)

end GroundLink.Connection
