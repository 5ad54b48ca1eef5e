import GroundLink.Proofs.Connection.Streaming
import GroundLink.Proofs.View.EventLog

/-!
# What listeners hear

The latest frames are held for all listeners. A listener takes those that it has not taken yet, one
by one; what has been dropped before it came to look is lost to it. What one listener does, the
others do not notice.
-/

namespace GroundLink.Protocol.Frame

open Model

/-- The server state that a frame is. -/
def state? : Frame → Option ServerState
  | .state s => some s
  | _ => none

end GroundLink.Protocol.Frame

namespace GroundLink.Connection

open Model Protocol View.EventLog

namespace Fanout

variable {f f' f'' : Fanout} {l : ListenerId} {own : Option ListenerId}

/-- The frames that are held for a listener, and that it has not taken. -/
def unheard (l : ListenerId) (f : Fanout) : List Frame :=
  match f.listeners.find? l with
  | some position => f.recent.drop (position - f.oldest)
  | none => []

lemma length_unheard_le (l : ListenerId) (f : Fanout) :
    (f.unheard l).length ≤ f.recent.length := by
  unfold unheard
  split
  · simp
  · exact Nat.zero_le _

/-- No more frames are held than there have been, and no listener is ahead of them. -/
structure Sound (f : Fanout) : Prop where
  held : f.recent.length ≤ f.count
  position : ∀ l p, f.listeners.find? l = some p → p ≤ f.count

lemma sound_start : start.Sound := ⟨le_rfl, by rintro l p ⟨⟩⟩

/-! ### Sending -/

lemma sound_publish (frame : Frame) (hf : f.Sound) : (f.publish frame).Sound := by
  unfold publish
  split
  · refine ⟨?_, fun l p hp => (hf.position l p hp).trans (Nat.le_succ _)⟩
    have hheld := hf.held
    simp only [List.length_drop, List.length_append, List.length_singleton]
    omega
  · exact hf

lemma isHeard_of_find {p : Nat} (hp : f.listeners.find? l = some p) : f.isHeard = true := by
  rw [isHeard, Bool.not_eq_true', List.isEmpty_eq_false_iff]
  exact List.ne_nil_of_mem (Table.mem_of_find? hp)

lemma publish_of_heard (frame : Frame) (hheard : f.isHeard = true) : f.publish frame
    = { f with count := f.count + 1, recent := latest (some capacity) (f.recent ++ [frame]) } :=
  if_pos hheard

lemma listeners_publish (frame : Frame) : (f.publish frame).listeners = f.listeners := by
  unfold publish
  split <;> rfl

lemma nextListener_publish (frame : Frame) :
    (f.publish frame).nextListener = f.nextListener := by
  unfold publish
  split <;> rfl

/-- A frame comes behind those that a listener has not taken. When it is too far behind, the oldest
one is dropped. -/
lemma unheard_publish (frame : Frame) (hf : f.Sound) (hl : (f.listeners.find? l).isSome) :
    (f.publish frame).unheard l = latest (some capacity) (f.unheard l ++ [frame]) := by
  obtain ⟨p, hp⟩ := Option.isSome_iff_exists.mp hl
  have hposition := hf.position l p hp
  have hheld := hf.held
  rw [publish_of_heard frame (isHeard_of_find hp)]
  simp only [unheard, hp, oldest, latest]
  generalize capacity = room
  rw [← List.drop_append_of_le_length (by omega), List.drop_drop, List.drop_drop]
  refine congrArg (List.drop · (f.recent ++ [frame])) ?_
  simp only [List.length_drop, List.length_append, List.length_singleton]
  omega

/-! ### Other listeners -/

/-- A fan-out has sent nothing, and what it knows of its listeners is the same but for one. -/
structure Keeps (own : Option ListenerId) (f f' : Fanout) : Prop where
  count : f'.count = f.count
  recent : f'.recent = f.recent
  listeners : ∀ l, own ≠ some l → f'.listeners.find? l = f.listeners.find? l
  next : f.nextListener ≤ f'.nextListener
  sound : f.Sound → f'.Sound

lemma Keeps.refl (own : Option ListenerId) (f : Fanout) : f.Keeps own f :=
  ⟨rfl, rfl, fun _ _ => rfl, le_rfl, id⟩

lemma Keeps.trans (h : f.Keeps own f') (h' : f'.Keeps own f'') : f.Keeps own f'' where
  count := h'.count.trans h.count
  recent := h'.recent.trans h.recent
  listeners := fun l hl => (h'.listeners l hl).trans (h.listeners l hl)
  next := h.next.trans h'.next
  sound := fun hf => h'.sound (h.sound hf)

lemma Keeps.unheard (h : f.Keeps own f') (hl : own ≠ some l) : f'.unheard l = f.unheard l := by
  rw [Fanout.unheard, h.listeners l hl, oldest, h.count, h.recent]
  rfl

lemma keeps_listen (f : Fanout) : f.Keeps (some ⟨f.nextListener⟩) f.listen.1 where
  count := rfl
  recent := rfl
  listeners := fun l hl => Table.find?_insert_of_ne (fun h => hl (congrArg some h)) _ _
  next := Nat.le_succ _
  sound := by
    intro hf
    refine ⟨hf.held, fun l p hp => ?_⟩
    by_cases hl : (⟨f.nextListener⟩ : ListenerId) = l
    · subst hl
      obtain rfl := Option.some.inj ((Table.find?_insert_self ..).symm.trans hp)
      exact le_rfl
    · exact hf.position l p ((Table.find?_insert_of_ne hl ..).symm.trans hp)

/-- A new listener hears what comes from now on. -/
lemma unheard_listen (hf : f.Sound) : f.listen.1.unheard ⟨f.nextListener⟩ = [] := by
  have hheld := hf.held
  rw [unheard, listen, Table.find?_insert_self]
  refine List.drop_eq_nil_of_le ?_
  change f.recent.length ≤ f.count - (f.count - f.recent.length)
  omega

lemma keeps_leave (l : ListenerId) (f : Fanout) : f.Keeps (some l) (f.leave l) where
  count := rfl
  recent := rfl
  listeners := fun _ hl => Table.find?_erase_of_ne (fun h => hl (congrArg some h)) _
  next := le_rfl
  sound := by
    intro hf
    refine ⟨hf.held, fun l' p hp => ?_⟩
    by_cases hl : l = l'
    · subst hl
      rw [leave, Table.find?_erase_self] at hp
      cases hp
    · exact hf.position l' p ((Table.find?_erase_of_ne hl _).symm.trans hp)

/-! ### Taking -/

/-- The frame that a listener finds. -/
def Reading.frame? : Reading → Option Frame
  | .frame _ f => some f
  | .nothing _ => none

/-- A listener moves to a place behind those that it has taken. -/
lemma keeps_insert {p : Nat} (hp : f.Sound → p ≤ f.count) :
    f.Keeps (some l) { f with listeners := f.listeners.insert l p } where
  count := rfl
  recent := rfl
  listeners := fun _ hl => Table.find?_insert_of_ne (fun h => hl (congrArg some h)) _ _
  next := le_rfl
  sound := by
    intro hf
    refine ⟨hf.held, fun l' p' hp' => ?_⟩
    by_cases hl : l = l'
    · subst hl
      obtain rfl := Option.some.inj ((Table.find?_insert_self ..).symm.trans hp')
      exact hp hf
    · exact hf.position l' p' ((Table.find?_insert_of_ne hl ..).symm.trans hp')

lemma keeps_read (l : ListenerId) (f : Fanout) : f.Keeps (some l) (f.read l).2 := by
  unfold read
  split
  case h_1 => exact .refl _ _
  case h_2 p hp =>
    dsimp only
    split
    case h_1 frame hframe =>
      refine keeps_insert fun hf => ?_
      obtain ⟨hlt, -⟩ := List.getElem?_eq_some_iff.mp hframe
      have hheld := hf.held
      rw [oldest] at hlt ⊢
      omega
    case h_2 =>
      refine keeps_insert fun hf => ?_
      have hposition := hf.position l p hp
      rw [oldest]
      omega

/-- A listener takes the first of the frames that it has not taken. -/
lemma read_eq (l : ListenerId) (f : Fanout) :
    (f.read l).1.frame? = (f.unheard l).head? ∧ (f.read l).2.unheard l = (f.unheard l).tail
      ∧ (((f.read l).2.listeners.find? l).isSome ↔ (f.listeners.find? l).isSome) := by
  cases hp : f.listeners.find? l with
  | none => simp [read, unheard, hp, Reading.frame?]
  | some p =>
    have hnext : p + (f.oldest - p) - f.oldest = p - f.oldest := by omega
    simp only [read, unheard, hp, hnext]
    cases hframe : f.recent[p - f.oldest]? with
    | some frame =>
      obtain ⟨hlt, rfl⟩ := List.getElem?_eq_some_iff.mp hframe
      refine ⟨?_, ?_, ?_⟩
      · rw [List.drop_eq_getElem_cons hlt]
        rfl
      · have hmore : p + (f.oldest - p) + 1 - f.oldest = p - f.oldest + 1 := by omega
        simp only [Table.find?_insert_self, List.tail_drop]
        exact congrArg (f.recent.drop ·) hmore
      · simp only [Table.find?_insert_self, Option.isSome_some]
    | none =>
      have hnil : f.recent.drop (p - f.oldest) = [] :=
        List.drop_eq_nil_of_le (List.getElem?_eq_none_iff.mp hframe)
      refine ⟨?_, ?_, ?_⟩
      · rw [hnil]
        rfl
      · simp only [Table.find?_insert_self, hnil, List.tail_nil]
        exact (congrArg (f.recent.drop ·) hnext).trans hnil
      · simp only [Table.find?_insert_self, Option.isSome_some]

end Fanout

/-! ### Listeners of a connection -/

namespace Channel

variable {l : ListenerId} {ch : Channel}

/-- What a consumer of frames takes, and what is left for it. -/
lemma readFrame_unheard (l : ListenerId) (ch : Channel) :
    (ch.readFrame l).1 = (ch.fanout.unheard l).head?
      ∧ (ch.readFrame l).2.fanout = (ch.fanout.read l).2 := by
  obtain ⟨hframe, -⟩ := ch.fanout.read_eq l
  unfold readFrame
  rw [← hframe]
  dsimp only
  split
  all_goals
    rename_i hreading
    rw [hreading]
    exact ⟨rfl, rfl⟩

/-- A consumer of frames finds the next one, or waits for it as long as it may come. -/
lemma pollFrame_unheard (l : ListenerId) (ch : Channel) :
    (ch.pollFrame l).1 = .next (ch.fanout.unheard l).head? ch.mayPublish
      ∧ (ch.pollFrame l).2 = (ch.readFrame l).2 := by
  have hframe := (readFrame_unheard l ch).1
  have hmay : (ch.readFrame l).2.mayPublish = ch.mayPublish := by
    unfold readFrame
    dsimp only
    split <;> rfl
  unfold pollFrame
  rw [← hframe, ← hmay]
  rcases ch.readFrame l with ⟨_ | frame, ch'⟩
  · refine ⟨?_, rfl⟩
    cases hmay' : ch'.mayPublish <;> simp [Found.next, hmay']
  · exact ⟨rfl, rfl⟩

/-- Whoever seeks a server state takes all frames up to the first one that is one. -/
lemma seekState_unheard {fuel : Nat} (hfuel : (ch.fanout.unheard l).length < fuel) :
    (ch.seekState l fuel).1 = (ch.fanout.unheard l).findSome? Frame.state?
      ∧ ((ch.seekState l fuel).1 = none → (ch.seekState l fuel).2.fanout.unheard l = [])
      ∧ (((ch.seekState l fuel).2.fanout.listeners.find? l).isSome
        ↔ (ch.fanout.listeners.find? l).isSome) := by
  induction fuel generalizing ch with
  | zero => omega
  | succ fuel ih =>
    obtain ⟨hframe, hfanout⟩ := readFrame_unheard l ch
    obtain ⟨-, htail, hpresent⟩ := ch.fanout.read_eq l
    unfold seekState
    cases hunheard : ch.fanout.unheard l with
    | nil =>
      rw [hunheard] at hframe htail
      rcases hread : ch.readFrame l with ⟨frame?, ch'⟩
      rw [hread] at hframe hfanout
      obtain rfl : frame? = none := hframe
      rw [← show ch'.fanout = _ from hfanout] at htail hpresent
      exact ⟨rfl, fun _ => htail, hpresent⟩
    | cons frame rest =>
      rw [hunheard] at hframe htail
      rcases hread : ch.readFrame l with ⟨frame?, ch'⟩
      rw [hread] at hframe hfanout
      obtain rfl : frame? = some frame := hframe
      rw [← show ch'.fanout = _ from hfanout] at htail hpresent
      have hrest : ch'.fanout.unheard l = rest := htail
      rw [hunheard, List.length_cons] at hfuel
      have hmore := @ih ch' (by rw [hrest]; omega)
      rw [hrest, hpresent] at hmore
      cases frame with
      | state s => exact ⟨rfl, by rintro ⟨⟩, hpresent⟩
      | _ => exact hmore

end Channel

end GroundLink.Connection
