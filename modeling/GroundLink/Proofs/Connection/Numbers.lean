import GroundLink.Proofs.Connection.Acting
import Mathlib.Data.List.Nodup

/-!
# Request numbers

Requests are numbered in their order, from one on. What has been written are the numbered requests,
but for one that is being written, as long as the dispatcher runs. Numbers have 64 bits: no two
requests share one until they have come round.
-/

namespace GroundLink.Connection

open Protocol

/-- The number of a request that comes after some others. -/
def numberAfter (n : Nat) : RequestId := ⟨UInt64.ofNat (n + 1)⟩

lemma numberAfter_next (n : Nat) : (numberAfter n).next = numberAfter (n + 1) := by
  simp [numberAfter, RequestId.next]

lemma numberAfter_inj {m n : Nat} (hm : m < UInt64.size) (hn : n < UInt64.size)
    (h : numberAfter m = numberAfter n) : m = n := by
  have hval := congrArg (fun id : RequestId => id.val.toNat) h
  simp only [numberAfter, UInt64.toNat_ofNat'] at hval
  simp only [UInt64.size] at hm hn
  omega

/-- How the numbered requests stand to a ledger. -/
structure Numbered (h : List Note) (l : Ledger) : Prop where
  next : l.nextId = numberAfter (numbered h).length
  ids : (numbered h).map (·.id) = (List.range (numbered h).length).map numberAfter
  written : l.written <+: numbered h
  running : l.stopped = false → l.written ++ l.hand = numbered h

namespace Numbered

variable {h h' : List Note} {l l' : Ledger} {τ : Nat}

/-- A step without a number, and without writing. -/
lemma frame (hn : Numbered h l) (hnotes : numbered h' = []) (hnext : l'.nextId = l.nextId)
    (hwritten : l'.written = l.written)
    (hrun : l'.stopped = false → l.stopped = false ∧ l'.hand = l.hand) : Numbered (h ++ h') l' := by
  have heq : numbered (h ++ h') = numbered h := by rw [numbered_append, hnotes, List.append_nil]
  exact {
    next := by rw [hnext, heq, hn.next]
    ids := by rw [heq, hn.ids]
    written := by
      rw [hwritten, heq]
      exact hn.written
    running := by
      intro h
      rw [hwritten, heq, (hrun h).2]
      exact hn.running (hrun h).1 }

/-- The next number is given out. -/
lemma number {n : Note} {r : Request} (hn : Numbered h l) (hrun : l.stopped = false)
    (hhand : l.hand = []) (hnote : n.numbered? = some ⟨l.nextId, r⟩)
    (hnext : l'.nextId = l.nextId.next) (hwritten : l'.written = l.written)
    (hhand' : l'.hand = [⟨l.nextId, r⟩]) : Numbered (h ++ [n]) l' := by
  have hnotes : numbered (h ++ [n]) = numbered h ++ [⟨l.nextId, r⟩] := by
    simp [numbered, hnote]
  have hall := hn.running hrun
  rw [hhand, List.append_nil] at hall
  exact {
    next := by
      rw [hnext, hn.next, numberAfter_next, hnotes, List.length_append]
      rfl
    ids := by
      rw [hnotes, List.length_append, List.map_append, hn.ids, List.length_singleton,
        List.range_succ, List.map_append, hn.next]
      rfl
    written := by
      rw [hwritten, hall, hnotes]
      exact List.prefix_append ..
    running := by
      intro _
      rw [hwritten, hall, hhand', hnotes] }

/-- A step keeps the numbers in their order. -/
lemma step (hn : Numbered h l) (hs : Ledger.Step τ l h' l') : Numbered (h ++ h') l' := by
  cases hs with
  | number hrun hhand _ => exact hn.number hrun hhand rfl rfl rfl rfl
  | cancel hrun hhand _ => exact hn.number hrun hhand rfl rfl rfl rfl
  | write hrun hhand =>
    have hall := hn.running hrun
    rw [hhand] at hall
    exact {
      next := by simpa using hn.next
      ids := by simpa using hn.ids
      written := ⟨[], by rw [List.append_nil, List.append_nil, ← hall]⟩
      running := by
        intro _
        rw [List.append_nil, List.append_nil, hall] }
  | stop => exact hn.frame rfl rfl rfl (by rintro ⟨⟩)
  | release _ _ hnote =>
    obtain rfl | ⟨e, rfl⟩ := hnote <;> exact hn.frame rfl rfl rfl fun h => ⟨h, rfl⟩
  | drop _ _ hnote =>
    obtain rfl | ⟨e, rfl⟩ := hnote <;> exact hn.frame rfl rfl rfl fun h => ⟨h, rfl⟩
  | _ => exact hn.frame rfl rfl rfl fun h => ⟨h, rfl⟩

/-- No two requests have the same number, unless the numbers have come round. -/
lemma nodup (hn : Numbered h l) (hlen : (numbered h).length ≤ UInt64.size) :
    ((numbered h).map (·.id)).Nodup := by
  rw [hn.ids]
  refine List.Nodup.map_on ?_ List.nodup_range
  intro i hi j hj hij
  rw [List.mem_range] at hi hj
  exact numberAfter_inj (by omega) (by omega) hij

/-- The next number is a new one, unless the numbers have come round. -/
lemma next_fresh (hn : Numbered h l) (hlen : (numbered h).length < UInt64.size) :
    l.nextId ∉ (numbered h).map (·.id) := by
  rw [hn.ids, hn.next, List.mem_map]
  rintro ⟨i, hi, hnext⟩
  rw [List.mem_range] at hi
  have heq := numberAfter_inj (by omega) hlen hnext
  omega

end Numbered

/-- Requests are numbered in their order, wherever steps lead. -/
theorem numbered_of_steps {τ : Nat} {h : List Note} {l : Ledger}
    (hs : Ledger.start.Steps τ h l) : Numbered h l :=
  hs.invariant ⟨rfl, rfl, List.prefix_rfl, fun _ => rfl⟩ fun _ hn hs => hn.step hs

end GroundLink.Connection
