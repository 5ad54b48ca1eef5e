import GroundLink.Proofs.Connection.Calls
import Mathlib.Data.List.Perm.Subperm

/-!
# Cancels

The client cancels a call of its own accord when nobody wants it any more, and at most once. Cancels
that a caller sends as requests do not count.
-/

namespace GroundLink.Connection

open Protocol

variable {h : List Note} {l : Ledger} {c : CallId}

/-- The requests, among those that have been written, with which the client cancels a call of its
own accord. -/
def ownCancels (c : CallId) (h : List Note) (written : List NumberedRequest) :
    List NumberedRequest :=
  written.filter fun r => r.id ∈ cancelNumbers c h

lemma Numbered.eq_of_id (hn : Numbered h l) (hlen : (numbered h).length ≤ UInt64.size)
    {r r' : NumberedRequest} (hr : r ∈ numbered h) (hr' : r' ∈ numbered h) (hid : r.id = r'.id) :
    r = r' :=
  List.inj_on_of_nodup_map (hn.nodup hlen) hr hr' hid

namespace Numbered

/-- What the client has written to cancel a call bears a number of the call's cancels. -/
lemma mem_ownCancels (hn : Numbered h l) (hlen : (numbered h).length ≤ UInt64.size)
    {r : NumberedRequest} : r ∈ ownCancels c h l.written ↔
      r ∈ l.written ∧ ∃ id ∈ cancelNumbers c h, r = ⟨id, .cancel c⟩ := by
  rw [ownCancels, List.mem_filter, decide_eq_true_iff]
  refine and_congr_right fun hr => ⟨fun hid => ⟨r.id, hid, ?_⟩, ?_⟩
  · exact hn.eq_of_id hlen (hn.written.subset hr) (mem_numbered_of_cancelNumbers hid) rfl
  · rintro ⟨id, hid, rfl⟩
    exact hid

lemma nodup_ownCancels (hn : Numbered h l) (hlen : (numbered h).length ≤ UInt64.size) :
    (ownCancels c h l.written).Nodup :=
  ((List.Nodup.of_map _ (hn.nodup hlen)).sublist hn.written.sublist).filter _

/-- There are no more cancels of a call than numbers for them. -/
lemma length_ownCancels_le (hn : Numbered h l) (hlen : (numbered h).length ≤ UInt64.size) :
    (ownCancels c h l.written).length ≤ (cancelNumbers c h).length := by
  have hsub : ownCancels c h l.written
      ⊆ (cancelNumbers c h).map fun id => ⟨id, .cancel c⟩ := by
    intro r hr
    obtain ⟨-, id, hid, rfl⟩ := (hn.mem_ownCancels hlen).mp hr
    exact List.mem_map_of_mem hid
  have hle := (List.subperm_of_subset (hn.nodup_ownCancels hlen) hsub).length_le
  rwa [List.length_map] at hle

end Numbered

/-- In every run in which no two replies open the same call, the client cancels a call at most once,
and not before it has been let go. When it has been let go, and the dispatcher runs with no cancel
and no text left to write, the call has been cancelled. -/
theorem Run.cancels_once {setting : Setting} {textRoom : Nat} {s : System}
    (hrun : Run setting textRoom h s) (hlen : (numbered h).length ≤ UInt64.size)
    (hd : CallsDistinct h) :
    (∀ c, (ownCancels c h s.channel.written).length ≤ 1)
      ∧ (∀ t c, (story t h).opened = some c → (story t h).ending = none →
        c ∉ s.channel.cancels ∧ ownCancels c h s.channel.written = [])
      ∧ (∀ t p sub, s.parties.find? t = some p → p.role = .consumer sub →
        sub.call ∉ s.channel.cancels ∧ ownCancels sub.call h s.channel.written = [])
      ∧ ∀ t c, (story t h).opened = some c → (story t h).ending = some .released →
        s.channel.isStopped = false → s.channel.cancels = [] → s.channel.hand = [] →
        ∃ id, ownCancels c h s.channel.written = [⟨id, .cancel c⟩] := by
  obtain ⟨hsteps, -, -⟩ := hrun.steps
  have hn := numbered_of_steps hsteps
  have ht := tended_of_steps hsteps hlen hd
  have honce : ∀ c, (ownCancels c h s.channel.written).length ≤ 1 := by
    intro c
    have hle : (ownCancels c h s.channel.written).length ≤ (cancelNumbers c h).length :=
      hn.length_ownCancels_le hlen
    have hone := ht.once c
    rw [Ledger.cancelCount] at hone
    omega
  have hwanted : ∀ t c, (story t h).opened = some c → (story t h).ending = none →
      c ∉ s.channel.cancels ∧ ownCancels c h s.channel.written = [] := by
    intro t c hopen hend
    have hzero := ht.not_cancelled hd hopen hend
    have hle : (ownCancels c h s.channel.written).length ≤ (cancelNumbers c h).length :=
      hn.length_ownCancels_le hlen
    rw [Ledger.cancelCount] at hzero
    refine ⟨List.count_eq_zero.mp (show s.channel.cancels.count c = 0 from ?_), ?_⟩
    · exact (Nat.add_eq_zero_iff.mp hzero).1
    · exact List.length_eq_zero_iff.mp (by omega)
  refine ⟨honce, hwanted, ?_, ?_⟩
  · intro t p sub hparty hrole
    have hrole' : s.ledger.role t = .consumer sub := by
      change Party.roleOf (s.parties.find? t) = .consumer sub
      rw [hparty]
      exact hrole
    obtain ⟨hopen, hend, -⟩ := ht.consumer t sub hrole'
    exact hwanted t sub.call hopen hend
  · intro t c hopen hend hrunning hcancels hhand
    have hcount := ht.cancelled hrunning t c hopen (by simp [hend]) (by simp [hend])
    have hnil : s.ledger.cancels = [] := hcancels
    rw [Ledger.cancelCount, hnil, List.count_nil, Nat.zero_add] at hcount
    -- The cancel is no longer queued, so it has a number, and nothing numbered is unwritten.
    obtain ⟨id, hid⟩ := List.exists_mem_of_length_pos (Nat.pos_of_ne_zero hcount)
    have hall := hn.running hrunning
    rw [show s.ledger.hand = [] from hhand, List.append_nil] at hall
    have hmem : ⟨id, .cancel c⟩ ∈ ownCancels c h s.channel.written := by
      refine (hn.mem_ownCancels hlen).mpr ⟨?_, id, hid, rfl⟩
      rw [hall]
      exact mem_numbered_of_cancelNumbers hid
    refine ⟨id, ?_⟩
    have hone := honce c
    obtain ⟨r, hr⟩ : ∃ r, ownCancels c h s.channel.written = [r] := by
      rw [← List.length_eq_one_iff]
      have := List.length_pos_of_mem hmem
      omega
    rw [hr, List.mem_singleton] at hmem
    rw [hr, hmem]

namespace System

/-- A subscription is opened and released, and its call is cancelled. -/
def released : List Act :=
  [.subscribe (.time "simulator" "realtime"), .look ⟨0⟩, .dispatch, .push (openingText 1 5),
    .dispatch, .look ⟨0⟩, .release ⟨0⟩, .dispatch]

end System

/-- The released subscription has been cancelled. -/
theorem Run.cancels_once_released :
    (numbered (System.plain.log System.released)).length ≤ UInt64.size
      ∧ CallsDistinct (System.plain.log System.released)
      ∧ (story ⟨0⟩ (System.plain.log System.released)).opened = some ⟨5⟩
      ∧ (story ⟨0⟩ (System.plain.log System.released)).ending = some .released
      ∧ (System.plain.play System.released).channel.isStopped = false
      ∧ (System.plain.play System.released).channel.cancels = []
      ∧ (System.plain.play System.released).channel.hand = []
      ∧ ∃ id, ownCancels ⟨5⟩ (System.plain.log System.released)
        (System.plain.play System.released).channel.written = [⟨id, .cancel ⟨5⟩⟩] := by
  have hlen : (numbered (System.plain.log System.released)).length ≤ UInt64.size := by
    decide +kernel
  have hd : CallsDistinct (System.plain.log System.released) := by
    decide +kernel
  have hopen : (story ⟨0⟩ (System.plain.log System.released)).opened = some ⟨5⟩ := by
    decide +kernel
  have hend : (story ⟨0⟩ (System.plain.log System.released)).ending = some .released := by
    decide +kernel
  have hrunning : (System.plain.play System.released).channel.isStopped = false := by
    decide +kernel
  have hcancels : (System.plain.play System.released).channel.cancels = [] := by
    decide +kernel
  have hhand : (System.plain.play System.released).channel.hand = [] := by
    decide +kernel
  refine ⟨hlen, hd, hopen, hend, hrunning, hcancels, hhand, ?_⟩
  exact ((Run.plain System.released).cancels_once hlen hd).2.2.2 ⟨0⟩ ⟨5⟩ hopen hend hrunning
    hcancels hhand

end GroundLink.Connection
