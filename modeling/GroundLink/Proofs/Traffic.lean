import GroundLink.Traffic
import Mathlib.Algebra.BigOperators.Group.List.Basic
import Mathlib.Data.List.Nodup
import Mathlib.Data.String.Basic
import Mathlib.Data.UInt

/-!
# What counters tell

Each frame that is handled is counted once by what it is, and an unknown one under the kind of its
fault as well. Counters have 64 bits, so they tell these numbers as long as there are fewer than
2 ^ 64 of them.
-/

namespace GroundLink

namespace Protocol

namespace FrameError

/-- The kinds of faults. -/
def kinds : List String := ["invalid_json", "missing_type", "unknown_type", "malformed"]

lemma kind_mem (e : FrameError) : e.kind ∈ kinds := by
  cases e <;> simp [kind, kinds]

end FrameError

namespace Frame

def isReply : Frame → Bool
  | .reply _ => true
  | _ => false

/-- Whether a frame rejects a request. -/
def isException : Frame → Bool
  | .reply r => r.rejection.isSome
  | _ => false

def isState : Frame → Bool
  | .state _ => true
  | _ => false

def isEvent : Frame → Bool
  | .event _ => true
  | _ => false

def isUnknown : Frame → Bool
  | .unknown _ => true
  | _ => false

/-- The kind of the fault of an unknown frame. -/
def fault? : Frame → Option String
  | .unknown e => some e.kind
  | _ => none

lemma fault_mem {f : Frame} {kind : String} (h : f.fault? = some kind) :
    kind ∈ FrameError.kinds := by
  cases f with
  | unknown e => exact Option.some.inj h ▸ e.kind_mem
  | _ => cases h

end Frame

end Protocol

open Protocol

namespace Traffic

variable {t : Traffic} {frames : List Frame} {f : Frame} {sent : Nat} {key k : String}
  {ns : List (String × UInt64)}

/-! ### Tallies -/

/-- The keys of a tally ascend. -/
def Ordered (ns : List (String × UInt64)) : Prop := ns.Pairwise (·.1 < ·.1)

/-- The number under a key. -/
def numberOf (k : String) (ns : List (String × UInt64)) : UInt64 :=
  ((ns.filter (·.1 = k)).map (·.2)).sum

lemma numberOf_cons (k : String) (p : String × UInt64) (ns : List (String × UInt64)) :
    numberOf k (p :: ns) = (if p.1 = k then p.2 else 0) + numberOf k ns := by
  by_cases h : p.1 = k <;> simp [numberOf, h]

lemma numberOf_eq_zero (h : ∀ p ∈ ns, p.1 ≠ k) : numberOf k ns = 0 := by
  have hnone : ns.filter (·.1 = k) = [] := by simpa [List.filter_eq_nil_iff] using h
  rw [numberOf, hnone]
  rfl

lemma numberOf_of_mem {p : String × UInt64} (h : Ordered ns) (hp : p ∈ ns) :
    numberOf p.1 ns = p.2 := by
  induction ns with
  | nil => cases hp
  | cons q ns ih =>
    obtain ⟨hq, hns⟩ := List.pairwise_cons.mp h
    rw [numberOf_cons]
    rcases List.mem_cons.mp hp with rfl | hp
    · rw [if_pos rfl, numberOf_eq_zero fun r hr => (hq r hr).ne', UInt64.add_zero]
    · rw [if_neg (hq p hp).ne, ih hns hp, UInt64.zero_add]

/-- One more under a key changes the number under this key alone. -/
lemma numberOf_tally (key k : String) (ns : List (String × UInt64)) :
    numberOf k (tally key ns) = numberOf k ns + if key = k then 1 else 0 := by
  induction ns with
  | nil => rw [tally, numberOf_cons, UInt64.add_comm]
  | cons q ns ih =>
    rw [tally]
    split
    case isTrue hkey =>
      subst hkey
      rw [numberOf_cons, numberOf_cons]
      by_cases hk : q.1 = k
      · rw [if_pos hk, if_pos hk, if_pos hk]
        ac_rfl
      · rw [if_neg hk, if_neg hk, if_neg hk, UInt64.add_zero]
    case isFalse =>
      split
      · rw [numberOf_cons, UInt64.add_comm]
      · rw [numberOf_cons, numberOf_cons, ih, UInt64.add_assoc]

lemma mem_keys_tally :
    k ∈ (tally key ns).map (·.1) ↔ k = key ∨ k ∈ ns.map (·.1) := by
  induction ns with
  | nil => simp [tally]
  | cons q ns ih =>
    rw [tally]
    split
    case isTrue hkey => simp [hkey]
    case isFalse =>
      split
      · simp
      · rw [List.map_cons, List.mem_cons, ih, List.map_cons, List.mem_cons, or_left_comm]

lemma ordered_tally (h : Ordered ns) : Ordered (tally key ns) := by
  induction ns with
  | nil => exact List.pairwise_singleton ..
  | cons q ns ih =>
    obtain ⟨hq, hns⟩ := List.pairwise_cons.mp h
    rw [tally]
    split
    case isTrue => exact List.pairwise_cons.mpr ⟨hq, hns⟩
    case isFalse hne =>
      split
      case isTrue hlt =>
        refine List.pairwise_cons.mpr ⟨fun p hp => ?_, h⟩
        rcases List.mem_cons.mp hp with rfl | hp
        · exact hlt
        · exact hlt.trans (hq p hp)
      case isFalse hlt =>
        refine List.pairwise_cons.mpr ⟨fun p hp => ?_, ih hns⟩
        rcases mem_keys_tally.mp (List.mem_map_of_mem hp) with hp | hp
        · exact hp ▸ lt_of_le_of_ne (not_lt.mp hlt) (Ne.symm hne)
        · obtain ⟨r, hr, hr'⟩ := List.mem_map.mp hp
          exact hr' ▸ hq r hr

/-! ### Frames -/

/-- The counters once a frame has been handled; of an event they tell as well whether it is lost. -/
def taking (lost : Bool) (t : Traffic) : Frame → Traffic
  | .reply r => t.countReceived.countReply r.rejection.isSome
  | .state _ => t.countReceived.countState
  | .event _ =>
    if lost then t.countReceived.countEvent.countUnrouted else t.countReceived.countEvent
  | .unknown e => t.countReceived.countUnknown e.kind

section

variable (lost : Bool) (t : Traffic) (f : Frame)

lemma sent_taking : (t.taking lost f).sent = t.sent := by
  cases f <;> cases lost <;> rfl

lemma received_taking : (t.taking lost f).received = t.received + 1 := by
  cases f <;> cases lost <;> rfl

lemma replies_taking :
    (t.taking lost f).replies = t.replies + if f.isReply then 1 else 0 := by
  cases f <;> cases lost <;> simp [taking, Frame.isReply, countReceived, countReply, countState,
    countEvent, countUnrouted, countUnknown]

lemma exceptions_taking :
    (t.taking lost f).exceptions = t.exceptions + if f.isException then 1 else 0 := by
  cases f with
  | reply r => cases hr : r.rejection <;>
      simp [taking, Frame.isException, countReceived, countReply, hr]
  | _ => cases lost <;> simp [taking, Frame.isException, countReceived, countState, countEvent,
      countUnrouted, countUnknown]

lemma stateFrames_taking :
    (t.taking lost f).stateFrames = t.stateFrames + if f.isState then 1 else 0 := by
  cases f <;> cases lost <;> simp [taking, Frame.isState, countReceived, countReply, countState,
    countEvent, countUnrouted, countUnknown]

lemma events_taking :
    (t.taking lost f).events = t.events + if f.isEvent then 1 else 0 := by
  cases f <;> cases lost <;> simp [taking, Frame.isEvent, countReceived, countReply, countState,
    countEvent, countUnrouted, countUnknown]

lemma unrouted_taking :
    (t.taking lost f).unrouted = t.unrouted + if f.isEvent && lost then 1 else 0 := by
  cases f <;> cases lost <;> simp [taking, Frame.isEvent, countReceived, countReply, countState,
    countEvent, countUnrouted, countUnknown]

lemma unknown_taking :
    (t.taking lost f).unknown = t.unknown + if f.isUnknown then 1 else 0 := by
  cases f <;> cases lost <;> simp [taking, Frame.isUnknown, countReceived, countReply, countState,
    countEvent, countUnrouted, countUnknown]

lemma unknownByKind_taking : (t.taking lost f).unknownByKind
    = f.fault?.elim t.unknownByKind fun kind => tally kind t.unknownByKind := by
  cases f <;> cases lost <;> rfl

end

/-- What counters tell of the frames that have been handled and of what has been sent. -/
structure Tells (frames : List Frame) (sent : Nat) (t : Traffic) : Prop where
  sent : t.sent = .ofNat sent
  received : t.received = .ofNat frames.length
  replies : t.replies = .ofNat (frames.countP Frame.isReply)
  exceptions : t.exceptions = .ofNat (frames.countP Frame.isException)
  stateFrames : t.stateFrames = .ofNat (frames.countP Frame.isState)
  events : t.events = .ofNat (frames.countP Frame.isEvent)
  unrouted : ∃ n ≤ frames.countP Frame.isEvent, t.unrouted = .ofNat n
  unknown : t.unknown = .ofNat (frames.countP Frame.isUnknown)
  ordered : Ordered t.unknownByKind
  keys : ∀ k, k ∈ t.unknownByKind.map (·.1) ↔ ∃ f ∈ frames, f.fault? = some k
  byKind : ∀ k, numberOf k t.unknownByKind = .ofNat (frames.countP (·.fault? = some k))

lemma tells_none : none.Tells [] 0 where
  sent := rfl
  received := rfl
  replies := rfl
  exceptions := rfl
  stateFrames := rfl
  events := rfl
  unrouted := ⟨0, le_rfl, rfl⟩
  unknown := rfl
  ordered := .nil
  keys := by simp [none]
  byKind := fun _ => rfl

/-- A number goes up by one with a frame of its kind. -/
lemma ofNat_countP {n : UInt64} {p : Frame → Bool} (h : n = .ofNat (frames.countP p)) (f : Frame) :
    (n + if p f then 1 else 0) = .ofNat ((frames ++ [f]).countP p) := by
  rw [h, List.countP_append, List.countP_singleton, UInt64.ofNat_add]
  split <;> rfl

/-- A frame is counted by what it is. -/
theorem Tells.taking (h : t.Tells frames sent) (lost : Bool) (f : Frame) :
    (t.taking lost f).Tells (frames ++ [f]) sent where
  sent := (sent_taking lost t f).trans h.sent
  received := by
    rw [received_taking, h.received, List.length_append, UInt64.ofNat_add]
    rfl
  replies := by rw [replies_taking, ofNat_countP h.replies]
  exceptions := by rw [exceptions_taking, ofNat_countP h.exceptions]
  stateFrames := by rw [stateFrames_taking, ofNat_countP h.stateFrames]
  events := by rw [events_taking, ofNat_countP h.events]
  unrouted := by
    obtain ⟨n, hn, hunrouted⟩ := h.unrouted
    rw [unrouted_taking, hunrouted, List.countP_append, List.countP_singleton]
    cases hlost : f.isEvent && lost with
    | true =>
      rw [Bool.and_eq_true] at hlost
      rw [if_pos rfl, if_pos hlost.1]
      exact ⟨n + 1, by omega, (UInt64.ofNat_add n 1).symm⟩
    | false => exact ⟨n, by omega, UInt64.add_zero _⟩
  unknown := by rw [unknown_taking, ofNat_countP h.unknown]
  ordered := by
    rw [unknownByKind_taking]
    cases f.fault? with
    | none => exact h.ordered
    | some kind => exact ordered_tally h.ordered
  keys := by
    intro k
    rw [unknownByKind_taking]
    cases hfault : f.fault? with
    | none => simp [h.keys, hfault, or_and_right, exists_or]
    | some kind =>
      rw [Option.elim_some, mem_keys_tally, h.keys]
      simp [hfault, or_and_right, exists_or, or_comm, eq_comm]
  byKind := by
    intro k
    have hsame := ofNat_countP (h.byKind k) f
    rw [unknownByKind_taking]
    cases hfault : f.fault? with
    | none => simpa [hfault] using hsame
    | some kind =>
      rw [Option.elim_some, numberOf_tally, ← hsame]
      simp [hfault]

/-- What is sent is counted. -/
lemma Tells.sending (h : t.Tells frames sent) (n : Nat) (dropped : UInt64) :
    Tells frames (sent + n) { t with sent := t.sent + .ofNat n, dropped } :=
  { h with sent := by rw [h.sent, UInt64.ofNat_add] }

lemma Tells.takingAll (h : t.Tells frames sent) (lost : Bool) (fs : List Frame) :
    (fs.foldl (Traffic.taking lost) t).Tells (frames ++ fs) sent := by
  induction fs generalizing t frames with
  | nil => rwa [List.append_nil]
  | cons f fs ih =>
    rw [List.append_cons]
    exact ih (h.taking lost f)

lemma sent_takingAll (lost : Bool) (t : Traffic) (fs : List Frame) :
    (fs.foldl (Traffic.taking lost) t).sent = t.sent := by
  induction fs generalizing t with
  | nil => rfl
  | cons f fs ih => exact (ih _).trans (sent_taking lost t f)

/-! ### Numbers -/

/-- Every frame is of one kind. -/
lemma length_eq_countP (frames : List Frame) :
    frames.length = frames.countP Frame.isReply + frames.countP Frame.isEvent
      + frames.countP Frame.isState + frames.countP Frame.isUnknown := by
  induction frames with
  | nil => rfl
  | cons f frames ih =>
    rw [List.length_cons, ih, List.countP_cons, List.countP_cons, List.countP_cons,
      List.countP_cons]
    cases f <;> simp [Frame.isReply, Frame.isEvent, Frame.isState, Frame.isUnknown] <;> omega

/-- The numbers of frames with distinct faults add up. -/
lemma sum_countP {ks : List String} (hks : ks.Nodup) (frames : List Frame) :
    (ks.map fun k => frames.countP (·.fault? = some k)).sum
      = frames.countP fun f => f.fault?.any (· ∈ ks) := by
  induction ks with
  | nil => simp
  | cons k ks ih =>
    obtain ⟨hk, hks⟩ := List.nodup_cons.mp hks
    rw [List.map_cons, List.sum_cons, ih hks]
    clear ih
    induction frames with
    | nil => rfl
    | cons f frames ih =>
      have hone : ((if f.fault? = some k then 1 else 0) + if f.fault?.any (· ∈ ks) then 1 else 0)
          = if f.fault?.any (· ∈ k :: ks) then 1 else 0 := by
        cases f.fault? with
        | none => rfl
        | some k' =>
          by_cases hk' : k' = k
          · simp [hk', hk]
          · simp [hk']
      simp only [List.countP_cons, decide_eq_true_eq, ← hone, ← ih]
      omega

/-- What counters tell of the texts that have been received and of the number of texts that have
been sent, as long as there are fewer than 2 ^ 64 of both. -/
structure Counts (texts : List String) (sent : Nat) (t : Traffic) : Prop where
  received : t.received.toNat = texts.length
  /-- Every text that is received is counted once by what it is. -/
  split : t.received.toNat
    = t.replies.toNat + t.events.toNat + t.stateFrames.toNat + t.unknown.toNat
  unknown : t.unknown.toNat = (t.unknownByKind.map (·.2.toNat)).sum
  distinct : (t.unknownByKind.map (·.1)).Nodup
  /-- A fault has a number if a text has had it, and it is one of four. -/
  kinds : ∀ kind, kind ∈ t.unknownByKind.map (·.1)
    ↔ kind ∈ FrameError.kinds ∧ ∃ text ∈ texts, (Frame.decode text).fault? = some kind
  byKind : ∀ p ∈ t.unknownByKind,
    p.2.toNat = texts.countP fun text => (Frame.decode text).fault? = some p.1
  exceptions : t.exceptions.toNat = texts.countP fun text => (Frame.decode text).isException
  unrouted : t.unrouted.toNat ≤ t.events.toNat
  sent : t.sent.toNat = sent

theorem Tells.counts {texts : List String} (h : t.Tells (texts.map Frame.decode) sent)
    (htexts : texts.length < UInt64.size) (hsent : sent < UInt64.size) : t.Counts texts sent := by
  have htell : ∀ {c : UInt64} {n : Nat}, n < UInt64.size → c = .ofNat n → c.toNat = n := by
    rintro c n hn rfl
    exact UInt64.toNat_ofNat_of_lt hn
  have hall : ∀ p : Frame → Bool, (texts.map Frame.decode).countP p < UInt64.size := fun p =>
    lt_of_le_of_lt List.countP_le_length (by rwa [List.length_map])
  have hdistinct : (t.unknownByKind.map (·.1)).Nodup :=
    (List.pairwise_map.mpr h.ordered).imp fun hlt => hlt.ne
  have hbyKind : ∀ p ∈ t.unknownByKind,
      p.2.toNat = (texts.map Frame.decode).countP (·.fault? = some p.1) := fun p hp =>
    htell (hall _) ((numberOf_of_mem h.ordered hp).symm.trans (h.byKind p.1))
  have hreceived : t.received.toNat = texts.length :=
    htell htexts (by rw [h.received, List.length_map])
  have hunknown := htell (hall _) h.unknown
  have hevents := htell (hall _) h.events
  constructor
  case received => exact hreceived
  case split =>
    rw [hreceived, htell (hall _) h.replies, hevents, htell (hall _) h.stateFrames, hunknown,
      ← length_eq_countP, List.length_map]
  case unknown =>
    have hsum : t.unknownByKind.map (·.2.toNat) = (t.unknownByKind.map (·.1)).map fun k =>
        (texts.map Frame.decode).countP (·.fault? = some k) := by
      rw [List.map_map]
      exact List.map_congr_left hbyKind
    rw [hsum, sum_countP hdistinct, hunknown]
    refine List.countP_congr fun f hf => ?_
    cases f with
    | unknown e =>
      have hkey := (h.keys e.kind).mpr ⟨_, hf, rfl⟩
      exact iff_of_true rfl (decide_eq_true hkey)
    | _ => simp [Frame.isUnknown, Frame.fault?]
  case distinct => exact hdistinct
  case kinds =>
    intro kind
    rw [h.keys]
    constructor
    · rintro ⟨f, hf, hfault⟩
      obtain ⟨text, htext, rfl⟩ := List.mem_map.mp hf
      exact ⟨Frame.fault_mem hfault, text, htext, hfault⟩
    · rintro ⟨-, text, htext, hfault⟩
      exact ⟨_, List.mem_map_of_mem htext, hfault⟩
  case byKind =>
    intro p hp
    rw [hbyKind p hp, List.countP_map]
    rfl
  case exceptions =>
    rw [htell (hall _) h.exceptions, List.countP_map]
    rfl
  case unrouted =>
    obtain ⟨n, hn, hunrouted⟩ := h.unrouted
    rw [hevents, htell (lt_of_le_of_lt hn (hall _)) hunrouted]
    exact hn
  case sent => exact htell hsent h.sent

end Traffic

end GroundLink
