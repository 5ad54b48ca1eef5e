import GroundLink.Proofs.Connection.Answering

/-!
# Requests in mind

The dispatcher has requests in mind in two tables: those that somebody waits for, and those for
subscriptions whose callers have gone. A request is in at most one of them, until its reply is
handled; one that somebody waits for is in the first.
-/

namespace GroundLink.Connection

open Protocol

variable {τ : Nat} {h h' : List Note} {l l' : Ledger} {s : System}

/-- The numbers of the requests that the dispatcher has in mind. -/
def Channel.remembered (ch : Channel) : List RequestId := ch.pending.map (·.1) ++ ch.abandoned

/-- Somebody waits for the reply to the request of a ticket. -/
def System.Waits (s : System) (t : Ticket) : Prop :=
  ∃ op x, s.parties.find? t = some (.calling op) ∧ op.exchange? = some x

/-- A reply to a number has been handled since the number was given out. Nothing is handled before
the numbered request is written. -/
def Answered (i : RequestId) (h : List Note) : Prop :=
  ∃ h₁ n h₂, h = h₁ ++ n :: h₂ ∧ n.numbered?.map (·.id) = some i
    ∧ ∃ r : Reply, .handled (.reply r) ∈ h₂ ∧ r.request = some i

/-! ### The note of a number -/

namespace Story

variable {s : Story} {t : Ticket} {n : Note} {i : RequestId}

lemma number_append (hi : s.number = some i) (h : List Note) :
    (h.foldl (fun s n => s.note t n) s).number = some i := by
  induction h generalizing s with
  | nil => exact hi
  | cons n h ih => exact ih (answer_note_eq hi n).1

lemma routed_append (hi : s.number = some i) (h : List Note) :
    (h.foldl (fun s n => s.note t n) s).routed = s.routed := by
  induction h generalizing s with
  | nil => rfl
  | cons n h ih => rw [List.foldl_cons, ih (answer_note_eq hi n).1, routed_note (by simp [hi])]

/-- A number comes from the note that gives it to the request. -/
lemma note_of_number (hbefore : s.number = none) (hi : (s.note t n).number = some i) :
    ∃ r, n = .sent ⟨i, r⟩ (some ⟨t, (s.note t n).routed⟩) ∧ (s.note t n).answer = s.answer := by
  revert hi
  fun_cases note t n s
  case case3 r w hw =>
    rintro ⟨⟩
    obtain ⟨rfl, -⟩ := hw
    exact ⟨r.request, rfl, rfl⟩
  all_goals
    intro hi
    exact absurd (hbefore.symm.trans hi) (by rintro ⟨⟩)

end Story

lemma story_append (t : Ticket) (h h' : List Note) :
    story t (h ++ h') = h'.foldl (fun s n => s.note t n) (story t h) := by
  rw [story, List.foldl_append, story]

/-- A request with a number has got it from a note, and its answer is the first reply thereafter. -/
lemma sent_of_number {t : Ticket} {i : RequestId} (hi : (story t h).number = some i) :
    ∃ h₁ r h₂, h = h₁ ++ .sent ⟨i, r⟩ (some ⟨t, (story t h).routed⟩) :: h₂
      ∧ (story t h).answer = h₂.findSome? (Note.replyTo? i) := by
  induction h using List.reverseRecOn with
  | nil => cases hi
  | append_singleton h n ih =>
    rw [story_append_singleton] at hi ⊢
    cases hbefore : (story t h).number with
    | none =>
      obtain ⟨r, hn, hanswer⟩ := Story.note_of_number hbefore hi
      refine ⟨h, r, [], by rw [← hn], hanswer.trans ?_⟩
      by_contra hsome
      exact story_answered t h hsome hbefore
    | some j =>
      obtain ⟨hnumber, hnext⟩ := Story.answer_note_eq (t := t) hbefore n
      obtain rfl : j = i := Option.some.inj (hnumber.symm.trans hi)
      obtain ⟨h₁, r, h₂, hh, hanswer⟩ := ih hbefore
      rw [Story.routed_note (by simp [hbefore])]
      refine ⟨h₁, r, h₂ ++ [n], ?_, ?_⟩
      · rw [← List.cons_append, ← List.append_assoc, ← hh]
      · rw [hnext, hanswer, List.findSome?_append, List.findSome?_singleton]

/-- A number is given out in one place. -/
lemma eq_of_numbered {h₁ h₂ h₁' h₂' : List Note} {n n' : Note} {i : RequestId}
    (hnodup : ((numbered (h₁ ++ n :: h₂)).map (·.id)).Nodup)
    (heq : h₁ ++ n :: h₂ = h₁' ++ n' :: h₂') (hn : n.numbered?.map (·.id) = some i)
    (hn' : n'.numbered?.map (·.id) = some i) : n = n' ∧ h₂ = h₂' := by
  have hmem : ∀ {m : Note} {k : List Note}, m ∈ k → m.numbered?.map (·.id) = some i →
      i ∈ (numbered k).map (·.id) := by
    intro m k hm hi
    obtain ⟨r, hr, rfl⟩ := Option.map_eq_some_iff.mp hi
    exact List.mem_map_of_mem (List.mem_filterMap.mpr ⟨m, hm, hr⟩)
  -- Whichever note stands first, the other one would give the number out once more.
  have hapart : ∀ {k k' : List Note} {m m' : Note}, m ∈ k → m' ∈ k' →
      m.numbered?.map (·.id) = some i → m'.numbered?.map (·.id) = some i →
      ¬((numbered (k ++ k')).map (·.id)).Nodup := by
    intro k k' m m' hm hm' hi hi' hnd
    rw [numbered_append, List.map_append, List.nodup_append] at hnd
    exact hnd.2.2 i (hmem hm hi) i (hmem hm' hi') rfl
  rcases List.append_eq_append_iff.mp heq with ⟨k, hk, hk'⟩ | ⟨k, hk, hk'⟩
  · cases k with
    | nil =>
      rw [List.nil_append, List.cons_eq_cons] at hk'
      exact hk'
    | cons m k =>
      obtain ⟨rfl, rfl⟩ := List.cons_eq_cons.mp hk'
      rw [heq, hk] at hnodup
      refine absurd hnodup (hapart ?_ ?_ hn hn')
      · exact List.mem_append_right _ List.mem_cons_self
      · exact List.mem_cons_self
  · cases k with
    | nil =>
      rw [List.nil_append, List.cons_eq_cons] at hk'
      exact ⟨hk'.1.symm, hk'.2.symm⟩
    | cons m k =>
      obtain ⟨rfl, rfl⟩ := List.cons_eq_cons.mp hk'
      rw [hk] at hnodup
      refine absurd hnodup (hapart ?_ ?_ hn' hn)
      · exact List.mem_append_right _ List.mem_cons_self
      · exact List.mem_cons_self

/-- The reply to a request with a number has been handled just if its story has an answer. -/
lemma answered_iff {t : Ticket} {i : RequestId} (hnodup : ((numbered h).map (·.id)).Nodup)
    (hi : (story t h).number = some i) : Answered i h ↔ (story t h).answer ≠ none := by
  obtain ⟨h₁, r, h₂, hh, hanswer⟩ := sent_of_number hi
  rw [hanswer, Option.ne_none_iff_isSome, List.findSome?_isSome_iff]
  constructor
  · rintro ⟨k₁, n, k₂, hk, hn, reply, hreply, hid⟩
    obtain ⟨-, rfl⟩ := eq_of_numbered (hh ▸ hnodup) (hh.symm.trans hk) rfl hn
    exact ⟨_, hreply, by simp [Note.replyTo?, hid]⟩
  · rintro ⟨n, hn, hreply⟩
    cases n with
    | handled f =>
      cases f with
      | reply reply =>
        refine ⟨h₁, _, h₂, hh, rfl, reply, hn, ?_⟩
        simp only [Note.replyTo?] at hreply
        split at hreply
        case isTrue hid => exact hid
        case isFalse => cases hreply
      | _ => cases hreply
    | _ => cases hreply

/-! ### Ledgers -/

def Ledger.remembered (l : Ledger) : List RequestId := l.pending.map (·.1) ++ l.abandoned

namespace Ledger

/-- Sweeping drops numbers, or moves them from one table to the other. -/
lemma swept_remembered_nodup (hnodup : l.remembered.Nodup) : l.swept.remembered.Nodup := by
  have hparts := (List.filter_append_perm (fun p => l.isDeserted p.2) l.pending).map (·.1)
  rw [List.map_append] at hparts
  have hall := (hparts.append_right l.abandoned).nodup_iff.mpr hnodup
  rw [List.append_assoc] at hall
  have hrouted : (((l.pending.filter fun p => l.isDeserted p.2).filter (·.2.routed)).map
      (·.1)).Sublist ((l.pending.filter fun p => l.isDeserted p.2).map (·.1)) :=
    List.filter_sublist.map _
  have hkept := hall.sublist (hrouted.append_right _)
  have hmoved := List.perm_append_comm.nodup_iff.mp hkept
  rw [List.append_assoc] at hmoved
  exact hmoved

/-- No number is in mind twice. -/
lemma Step.remembered_nodup (hc : Correlated τ h l) (hn : Numbered h l)
    (hlen : (numbered h).length < UInt64.size) (hs : Step τ l h' l')
    (hnodup : l.remembered.Nodup) : l'.remembered.Nodup := by
  have herase : ∀ id, ((l.pending.erase id).map (·.1) ++ l.abandoned).Nodup := fun id =>
    hnodup.sublist ((List.filter_sublist.map _).append_right _)
  cases hs with
  | sweep => exact swept_remembered_nodup hnodup
  | stop => exact List.nodup_nil
  | answer | late => exact herase _
  | forgotten => exact hnodup.sublist (List.filter_sublist.append_left _)
  | @number r w rest =>
    cases w with
    | none => exact hnodup
    | some w =>
      have hnew : l.nextId ∉ l.abandoned := by
        intro hmem
        obtain ⟨t, ht, -⟩ := hc.abandoned _ hmem
        exact hn.next_fresh hlen (story_number_mem ht)
      have hold : l.nextId ∉ (l.pending.erase l.nextId).map (·.1) := by
        simp [Table.mem_erase]
      change (((l.pending.erase l.nextId) ++ [(l.nextId, w)]).map (·.1) ++ l.abandoned).Nodup
      rw [List.map_append, List.append_assoc, List.map_singleton, List.singleton_append,
        List.perm_middle.nodup_iff, List.nodup_cons, List.mem_append, not_or]
      exact ⟨⟨hold, hnew⟩, herase l.nextId⟩
  | _ => exact hnodup

end Ledger

/-- No number is in mind twice, wherever steps lead. -/
lemma remembered_nodup_of_steps (hs : Ledger.start.Steps τ h l)
    (hlen : (numbered h).length < UInt64.size) : l.remembered.Nodup := by
  refine hs.invariant (P := fun h l => (numbered h).length < UInt64.size → l.remembered.Nodup)
    (fun _ => List.nodup_nil) ?_ hlen
  intro h h' l l' hs hnodup hstep hlen
  have hbefore : (numbered h).length < UInt64.size := by
    rw [numbered_append, List.length_append] at hlen
    omega
  exact hstep.remembered_nodup (correlated_of_steps hs hbefore.le) (numbered_of_steps hs) hbefore
    (hnodup hbefore)

/-- A request that is being numbered has had no number before. -/
lemma Ledger.Step.number_of_sent (hc : Correlated τ h l) (hs : Step τ l h' l')
    {r : NumberedRequest} {w : Waiter} (hsent : .sent r (some w) ∈ h') :
    (story w.ticket (h ++ h')).number = some r.id
      ∧ (story w.ticket (h ++ h')).routed = w.routed := by
  cases hs with
  | number hrun hhand hcommands =>
    obtain ⟨rfl, rfl⟩ := Note.sent.inj (List.mem_singleton.mp hsent)
    have hnone := (hc.queued _ w (hcommands ▸ List.mem_cons_self)).1
    rw [story_append_singleton]
    simp [Story.note, hnone]
  | release _ _ hnote | drop _ _ hnote =>
    obtain rfl | ⟨e, rfl⟩ := hnote <;> simp at hsent
  | _ => simp at hsent

/-- A request keeps the number that it has been sent with, wherever steps lead. -/
lemma number_of_sent (hs : Ledger.start.Steps τ h l) (hlen : (numbered h).length ≤ UInt64.size)
    {r : NumberedRequest} {w : Waiter} (hsent : .sent r (some w) ∈ h) :
    (story w.ticket h).number = some r.id ∧ (story w.ticket h).routed = w.routed := by
  refine hs.invariant_correlated (P := fun h _ => .sent r (some w) ∈ h →
    (story w.ticket h).number = some r.id ∧ (story w.ticket h).routed = w.routed)
    (by rintro ⟨⟩) ?_ hlen hsent
  intro h h' l l' _ _ hc ih hstep hsent
  rcases List.mem_append.mp hsent with hmem | hmem
  · obtain ⟨hnumber, hrouted⟩ := ih hmem
    rw [story_append]
    exact ⟨Story.number_append hnumber h', (Story.routed_append hnumber h').trans hrouted⟩
  · exact hstep.number_of_sent hc hmem

/-! ### Runs -/

/-- How the tables of the dispatcher stand to what has been noted. -/
structure System.Remembers (s : System) (h : List Note) : Prop where
  /-- No number is in mind twice, be it in one table or in both. -/
  once : s.channel.remembered.Nodup
  /-- Numbers in mind come from one on and before the next one, which is zero where all numbers have
  been given out. -/
  issued : ∀ i ∈ s.channel.remembered, 1 ≤ i.val ∧ (i.val < s.channel.nextId.val
    ∨ s.channel.nextId.val = 0 ∧ (numbered h).length + 1 = UInt64.size)
  unanswered : ∀ i ∈ s.channel.remembered, ¬Answered i h
  own : ∀ i w, (i, w) ∈ s.channel.pending → ∃ r, .sent ⟨i, r⟩ (some w) ∈ h
  deserted : ∀ i ∈ s.channel.abandoned,
    ∃ r t, .sent ⟨i, r⟩ (some ⟨t, true⟩) ∈ h ∧ ¬s.Waits t
  kept : s.channel.isStopped = false → ∀ i r w, .sent ⟨i, r⟩ (some w) ∈ h → s.Waits w.ticket →
    ¬Answered i h → s.channel.pending.find? i = some w
  unique : ((numbered h).map (·.id)).Nodup

/-- Somebody who waits has the role of a caller. -/
lemma System.waits_iff {t : Ticket} : s.Waits t ↔ ∃ x, s.ledger.role t = .caller x := by
  change s.Waits t ↔ ∃ x, Party.roleOf (s.parties.find? t) = .caller x
  unfold Waits
  cases s.parties.find? t with
  | none => simp [Party.roleOf]
  | some p =>
    cases p with
    | calling op =>
      cases op <;> simp [Party.roleOf, Party.role, Operation.role, Operation.exchange?]
    | _ => simp [Party.roleOf, Party.role]

/-- A number that has been given out comes before the next one. -/
lemma Numbered.issued (hn : Numbered h l) (hlen : (numbered h).length < UInt64.size)
    {i : RequestId} (hi : i ∈ (numbered h).map (·.id)) :
    1 ≤ i.val ∧ (i.val < l.nextId.val
      ∨ l.nextId.val = 0 ∧ (numbered h).length + 1 = UInt64.size) := by
  rw [hn.ids, List.mem_map] at hi
  obtain ⟨n, hmem, rfl⟩ := hi
  rw [List.mem_range] at hmem
  rw [hn.next]
  simp only [numberAfter, UInt64.le_iff_toNat_le, UInt64.lt_iff_toNat_lt, ← UInt64.toNat_inj,
    UInt64.toNat_ofNat', UInt64.size] at hlen ⊢
  have hzero : UInt64.toNat 0 = 0 := rfl
  have hone : UInt64.toNat 1 = 1 := rfl
  omega

/-- A request that is remembered is some ticket's, and has not been answered. -/
lemma Correlated.story_of_remembered {τ : Nat} (hc : Correlated τ h s.ledger) {i : RequestId}
    (hi : i ∈ s.channel.remembered) :
    ∃ t, (story t h).number = some i ∧ (story t h).answer = none := by
  rcases List.mem_append.mp hi with hi | hi
  · obtain ⟨⟨i, w⟩, hmem, rfl⟩ := List.mem_map.mp hi
    obtain ⟨hnumber, -, hanswer, -⟩ := hc.pending i w hmem
    exact ⟨w.ticket, hnumber, hanswer⟩
  · obtain ⟨t, hnumber, -, hanswer, -⟩ := hc.abandoned i hi
    exact ⟨t, hnumber, hanswer⟩

/-- A number has been sent for its ticket. -/
lemma sent_mem_of_number {i : RequestId} (hi : (story t h).number = some i) :
    ∃ r, .sent ⟨i, r⟩ (some ⟨t, (story t h).routed⟩) ∈ h := by
  obtain ⟨h₁, r, h₂, hh, -⟩ := sent_of_number hi
  have hmem := List.mem_append_right h₁
    (List.mem_cons_self (a := .sent ⟨i, r⟩ (some ⟨t, (story t h).routed⟩)) (l := h₂))
  rw [← hh] at hmem
  exact ⟨r, hmem⟩

/-- In every run with fewer than 2^64 numbers, the tables of the dispatcher stand to what has
happened as they should: a request is in at most one of them, not once its reply has been handled,
and in the first as long as somebody waits for it. -/
theorem Run.remembers {setting : Setting} {textRoom : Nat} (hrun : Run setting textRoom h s)
    (hlen : (numbered h).length < UInt64.size) : s.Remembers h := by
  obtain ⟨hsteps, -, -⟩ := hrun.steps
  have hc := correlated_of_steps hsteps hlen.le
  have hn := numbered_of_steps hsteps
  have hnodup := hn.nodup hlen.le
  constructor
  case once => exact remembered_nodup_of_steps hsteps hlen
  case issued =>
    intro i hi
    obtain ⟨t, hnumber, -⟩ := hc.story_of_remembered hi
    exact hn.issued hlen (story_number_mem hnumber)
  case unanswered =>
    intro i hi hans
    obtain ⟨t, hnumber, hanswer⟩ := hc.story_of_remembered hi
    exact (answered_iff hnodup hnumber).mp hans hanswer
  case own =>
    intro i w hmem
    obtain ⟨hnumber, hrouted, -⟩ := hc.pending i w hmem
    obtain ⟨r, hr⟩ := sent_mem_of_number hnumber
    rw [hrouted] at hr
    exact ⟨r, hr⟩
  case deserted =>
    intro i hi
    obtain ⟨t, hnumber, hrouted, -, hgone⟩ := hc.abandoned i hi
    obtain ⟨r, hr⟩ := sent_mem_of_number hnumber
    rw [hrouted] at hr
    refine ⟨r, t, hr, fun hwaits => ?_⟩
    obtain ⟨x, hx⟩ := System.waits_iff.mp hwaits
    rw [(hc.caller t x hx).waiting] at hgone
    cases hgone
  case kept =>
    intro hrunning i r w hw hwaits hans
    obtain ⟨hnumber, hrouted⟩ := number_of_sent hsteps hlen.le hw
    obtain ⟨x, hx⟩ := System.waits_iff.mp hwaits
    rw [answered_iff hnodup hnumber, not_not] at hans
    rcases hc.tracked hrunning w.ticket i hnumber hans with hmem | ⟨hgone, -⟩
    · rw [hrouted] at hmem
      exact hc.find_of_mem hmem
    · rw [(hc.caller w.ticket x hx).waiting] at hgone
      cases hgone
  case unique => exact hnodup

/-- A caller leaves its request for a subscription, and another one sends a request. -/
def System.relieved : List System.Act :=
  [.subscribe (.time "simulator" "realtime"), .look ⟨0⟩, .dispatch, .abandon ⟨0⟩,
    .send (.links "simulator"), .look ⟨1⟩, .dispatch]

/-- The first request has been moved from one table to the other. -/
theorem Run.remembers_relieved :
    (numbered (System.plain.log System.relieved)).length < UInt64.size
      ∧ (System.plain.play System.relieved).channel.pending = [(⟨2⟩, ⟨⟨1⟩, false⟩)]
      ∧ (System.plain.play System.relieved).channel.abandoned = [⟨1⟩]
      ∧ (System.plain.play System.relieved).Remembers (System.plain.log System.relieved) := by
  have hlen : (numbered (System.plain.log System.relieved)).length < UInt64.size := by
    decide +kernel
  exact ⟨hlen, by decide +kernel, by decide +kernel, (Run.plain System.relieved).remembers hlen⟩

end GroundLink.Connection
