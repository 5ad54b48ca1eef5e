import GroundLink.Connection.Operation
import Mathlib.Data.List.Induction

/-!
# Notes

What happens on a connection, noted in its order: requests get numbers, frames are handled, callers
get results, consumers read. The notes that concern a ticket tell the story of its request: its
number, the first reply to that number, the events of the call that the reply opens, and how the
caller or the consumer left.
-/

namespace GroundLink.Connection

open Protocol

/-- Whether a caller holds a subscription on account of a result. -/
def keeps : Except Client.Error Outcome → Bool
  | .ok (.subscribed _) | .ok (.streaming _) => true
  | _ => false

/-- What may be noted. Times count nanoseconds. -/
inductive Note where
  /-- The request of a ticket is queued. -/
  | queued (t : Ticket) (time : Nat)
  /-- A queued request gets its number. -/
  | sent (r : NumberedRequest) (waiter : Option Waiter)
  /-- The client cancels a call of its own accord, under a number. -/
  | cancelled (id : RequestId) (call : CallId)
  /-- The dispatcher handles a text of the server. -/
  | handled (frame : Frame)
  | stopped
  | returned (t : Ticket) (result : Except Client.Error Outcome)
  | abandoned (t : Ticket)
  /-- A consumer gets an event. -/
  | yielded (t : Ticket) (u : Update)
  /-- A subscription is let go. -/
  | released (t : Ticket)

/-! ### Numbers -/

def Note.numbered? : Note → Option NumberedRequest
  | .sent r _ => some r
  | .cancelled id c => some ⟨id, .cancel c⟩
  | _ => none

/-- The requests that have got their numbers. -/
def numbered (h : List Note) : List NumberedRequest := h.filterMap Note.numbered?

/-- The number of a cancel that the client sends of its own accord. -/
def Note.cancels? (c : CallId) : Note → Option RequestId
  | .cancelled id c' => if c' = c then some id else none
  | _ => none

/-- The numbers under which the client has cancelled a call of its own accord. -/
def cancelNumbers (c : CallId) (h : List Note) : List RequestId := h.filterMap (Note.cancels? c)

@[simp] lemma numbered_nil : numbered [] = [] := rfl

@[simp] lemma numbered_append (h h' : List Note) :
    numbered (h ++ h') = numbered h ++ numbered h' := by
  simp [numbered]

/-- A part of the notes has no more numbers than all of them. -/
lemma numbered_length_of_append {h h' : List Note} {n : Nat}
    (hlen : (numbered (h ++ h')).length ≤ n) : (numbered h).length ≤ n := by
  rw [numbered_append, List.length_append] at hlen
  omega

@[simp] lemma cancelNumbers_nil (c : CallId) : cancelNumbers c [] = [] := rfl

@[simp] lemma cancelNumbers_append (c : CallId) (h h' : List Note) :
    cancelNumbers c (h ++ h') = cancelNumbers c h ++ cancelNumbers c h' := by
  simp [cancelNumbers]

lemma mem_cancelNumbers {c : CallId} {id : RequestId} {h : List Note} :
    id ∈ cancelNumbers c h ↔ .cancelled id c ∈ h := by
  simp only [cancelNumbers, List.mem_filterMap]
  constructor
  · rintro ⟨n, hn, hid⟩
    cases n <;> simp [Note.cancels?] at hid
    obtain ⟨rfl, rfl⟩ := hid
    exact hn
  · intro hn
    exact ⟨_, hn, by simp [Note.cancels?]⟩

lemma mem_numbered_of_cancelNumbers {c : CallId} {id : RequestId} {h : List Note}
    (hid : id ∈ cancelNumbers c h) : ⟨id, .cancel c⟩ ∈ numbered h := by
  rw [mem_cancelNumbers] at hid
  exact List.mem_filterMap.mpr ⟨_, hid, rfl⟩

/-! ### Stories -/

/-- How a caller or a consumer has left. -/
inductive Ending where
  /-- It has got a result that leaves it without a call. -/
  | returned
  /-- It has given up before there was a reply. -/
  | abandoned
  /-- It has given up with the reply at hand, but not taken. -/
  | unread
  /-- It has let its call go. -/
  | released
deriving DecidableEq, Repr

/-- The story of a request. -/
structure Story where
  queuedAt : Option Nat
  number : Option RequestId
  /-- Whether the events of a call that it opens are wanted. -/
  routed : Bool
  /-- The first reply to its number since it got it. -/
  answer : Option Reply
  ending : Option Ending
  /-- The events of the call since the answer, until the consumer left. -/
  arrived : List Update
  read : List Update

namespace Story

def blank : Story := ⟨none, none, false, none, none, [], []⟩

/-- The call that the answer opens for a subscription. -/
def opened (s : Story) : Option CallId :=
  s.answer.bind fun r => if s.routed && r.rejection.isNone then r.call else none

/-- What a note adds to the story of a ticket. -/
def note (t : Ticket) (n : Note) (s : Story) : Story :=
  match n with
  | .queued u time => if u = t then { s with queuedAt := some time } else s
  | .sent r (some w) =>
    if w.ticket = t ∧ s.number = none then { s with number := some r.id, routed := w.routed }
    else s
  | .handled (.reply r) =>
    if s.number ≠ none ∧ r.request = s.number ∧ s.answer = none then { s with answer := some r }
    else s
  | .handled (.event u) =>
    if s.opened = some u.call ∧ s.ending = none then { s with arrived := s.arrived ++ [u] } else s
  | .returned u result =>
    if u = t ∧ keeps result = false then
      { s with ending := some (if s.opened.isSome then .released else .returned) }
    else s
  | .abandoned u =>
    if u = t then
      { s with ending := some (if s.answer.isSome then .unread else .abandoned) }
    else s
  | .released u => if u = t then { s with ending := some .released } else s
  | .yielded u e => if u = t then { s with read := s.read ++ [e] } else s
  | _ => s

end Story

def story (t : Ticket) (h : List Note) : Story := h.foldl (fun s n => s.note t n) .blank

@[simp] lemma story_nil (t : Ticket) : story t [] = .blank := rfl

@[simp] lemma story_append_singleton (t : Ticket) (h : List Note) (n : Note) :
    story t (h ++ [n]) = (story t h).note t n := by
  simp [story]

/-! ### What notes keep -/

/-- Whether a note is about the request of a ticket, rather than about those who leave or read. -/
def Note.asks : Note → Bool
  | .queued .. | .sent .. | .handled (.reply _) => true
  | _ => false

/-- The ticket of those who leave or read. -/
def Note.party? : Note → Option Ticket
  | .returned t _ | .abandoned t | .released t | .yielded t _ => some t
  | _ => none

namespace Story

variable {s : Story} {t : Ticket} {n : Note}

/-- A number stays, and comes from a note. -/
lemma number_note {i : RequestId} (hi : (s.note t n).number = some i) :
    s.number = some i ∨ n.numbered?.map (·.id) = some i := by
  revert hi
  fun_cases note t n s <;> grind [Note.numbered?]

lemma routed_note (hs : s.number ≠ none) : (s.note t n).routed = s.routed := by
  fun_cases note t n s <;> grind

lemma answered_note (hs : s.answer ≠ none → s.number ≠ none) :
    (s.note t n).answer ≠ none → (s.note t n).number ≠ none := by
  fun_cases note t n s <;> grind

lemma answer_note {r : Reply} (hr : s.answer = some r) : (s.note t n).answer = some r := by
  fun_cases note t n s <;> grind

lemma unread_note (hs : s.ending = some .unread → s.answer ≠ none) :
    (s.note t n).ending = some .unread → (s.note t n).answer ≠ none := by
  fun_cases note t n s <;> grind

lemma opened_note {c : CallId} (hs : s.answer ≠ none → s.number ≠ none)
    (hc : s.opened = some c) : (s.note t n).opened = some c := by
  fun_cases note t n s <;> grind [opened]

/-- What a story tells of the request itself is the same in another one. -/
structure Same (s s' : Story) : Prop where
  queuedAt : s'.queuedAt = s.queuedAt
  number : s'.number = s.number
  routed : s'.routed = s.routed
  answer : s'.answer = s.answer

lemma Same.refl (s : Story) : s.Same s := ⟨rfl, rfl, rfl, rfl⟩

lemma same_note (hn : n.asks = false) : s.Same (s.note t n) := by
  fun_cases note t n s <;> first | exact ⟨rfl, rfl, rfl, rfl⟩ | cases hn

lemma ending_note (hn : n.party? ≠ some t) : (s.note t n).ending = s.ending := by
  fun_cases note t n s <;> grind [Note.party?]

lemma note_of_party {u : Ticket} (hn : n.asks = false) (hu : n.party? = some u) (ht : t ≠ u) :
    s.note t n = s := by
  fun_cases note t n s <;> grind [Note.party?, Note.asks]

/-- A result that leaves a subscription to the caller ends nothing. -/
lemma note_of_keeps {u : Ticket} {result : Except Client.Error Outcome}
    (h : keeps result = true) : s.note t (.returned u result) = s := by
  simp [note, h]

lemma blank_note (hn : n.asks = false) (ht : n.party? ≠ some t) : blank.note t n = blank := by
  fun_cases note t n blank <;> grind [Note.party?, Note.asks, blank, opened]

end Story

variable {t : Ticket} {h h' : List Note}

lemma story_same {h' : List Note} (hn : ∀ n ∈ h', n.asks = false) :
    (story t h).Same (story t (h ++ h')) := by
  induction h' using List.reverseRecOn with
  | nil =>
    rw [List.append_nil]
    exact .refl _
  | append_singleton h' n ih =>
    obtain ⟨h₁, h₂, h₃, h₄⟩ := ih fun m hm => hn m (List.mem_append_left _ hm)
    obtain ⟨h₅, h₆, h₇, h₈⟩ := Story.same_note (s := story t (h ++ h')) (t := t)
      (hn n (List.mem_append_right _ (List.mem_singleton_self _)))
    rw [← List.append_assoc, story_append_singleton]
    exact ⟨h₅.trans h₁, h₆.trans h₂, h₇.trans h₃, h₈.trans h₄⟩

lemma story_answered (t : Ticket) (h : List Note) :
    (story t h).answer ≠ none → (story t h).number ≠ none := by
  induction h using List.reverseRecOn with
  | nil => simp [Story.blank]
  | append_singleton h n ih =>
    rw [story_append_singleton]
    exact Story.answered_note ih

/-- Only a reply that has come can be left unread. -/
lemma story_unread (t : Ticket) (h : List Note) :
    (story t h).ending = some .unread → (story t h).answer ≠ none := by
  induction h using List.reverseRecOn with
  | nil => simp [Story.blank]
  | append_singleton h n ih =>
    rw [story_append_singleton]
    exact Story.unread_note ih

/-- The number of a story is one that has been given out. -/
lemma story_number_mem {i : RequestId} (hi : (story t h).number = some i) :
    i ∈ (numbered h).map (·.id) := by
  induction h using List.reverseRecOn with
  | nil => simp [Story.blank] at hi
  | append_singleton h n ih =>
    rw [story_append_singleton] at hi
    rw [numbered_append, List.map_append, List.mem_append]
    refine (Story.number_note hi).imp ih ?_
    intro hn
    cases hn' : n.numbered? with
    | none => simp [hn'] at hn
    | some r => simpa [numbered, hn', eq_comm] using hn

lemma story_opened_append {c : CallId} (hc : (story t h).opened = some c) :
    (story t (h ++ h')).opened = some c := by
  induction h' using List.reverseRecOn with
  | nil => simpa using hc
  | append_singleton h' n ih =>
    rw [← List.append_assoc, story_append_singleton]
    exact Story.opened_note (story_answered t _) ih

/-- No two of the replies that open subscriptions name the same call. -/
def CallsDistinct (h : List Note) : Prop :=
  ∀ ⦃t u : Ticket⦄ ⦃c : CallId⦄,
    (story t h).opened = some c → (story u h).opened = some c → t = u

lemma CallsDistinct.of_append (hd : CallsDistinct (h ++ h')) : CallsDistinct h :=
  fun _ _ _ ht hu => hd (story_opened_append ht) (story_opened_append hu)

/-- The callers whose requests have got their numbers. -/
def askers (h : List Note) : List Ticket :=
  h.filterMap fun
    | .sent _ (some w) => some w.ticket
    | _ => none

lemma mem_askers_of_number (hn : (story t h).number ≠ none) : t ∈ askers h := by
  induction h using List.reverseRecOn with
  | nil => exact absurd rfl hn
  | append_singleton h n ih =>
    rw [story_append_singleton] at hn
    rw [askers, List.filterMap_append, List.mem_append]
    by_cases hbefore : (story t h).number = none
    · right
      revert hn
      fun_cases Story.note t n (story t h) <;> simp_all
    · exact .inl (ih hbefore)

lemma callsDistinct_iff : CallsDistinct h ↔ ∀ t ∈ askers h, ∀ u ∈ askers h,
    (story t h).opened ≠ none → (story t h).opened = (story u h).opened → t = u := by
  constructor
  · intro hd t _ u _ hopen heq
    obtain ⟨c, hc⟩ := Option.ne_none_iff_exists'.mp hopen
    exact hd hc (heq ▸ hc)
  · intro hall t u c ht hu
    -- Only askers have calls, so finitely many tickets decide.
    have hasked : ∀ {v}, (story v h).opened = some c → v ∈ askers h := by
      intro v hv
      refine mem_askers_of_number (story_answered v h fun hanswer => ?_)
      simp [Story.opened, hanswer] at hv
    exact hall t (hasked ht) u (hasked hu) (by simp [ht]) (ht.trans hu.symm)

instance (h : List Note) : Decidable (CallsDistinct h) := decidable_of_iff' _ callsDistinct_iff

end GroundLink.Connection
