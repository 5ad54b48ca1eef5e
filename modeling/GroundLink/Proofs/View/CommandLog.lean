import GroundLink.Proofs.View.Merging
import GroundLink.View.CommandLog

/-!
# Command logs

A log has one entry to a command, in the order in which the commands first came up, and its index
tells where each of them is. The entry of a command depends on the updates of that command alone:
they are merged into it one after another.

An archive may have seen updates that are still to come from the server. A log that begins with what
the archive knows, and gets such updates once more, ends as if it had got each update once.
-/

namespace GroundLink.View

open Model

/-! ### Updates of one command -/

/-- The entry of a command behind an update. -/
def absorb (entry : Option CommandEntry) (update : CommandEntry) : CommandEntry :=
  match entry with
  | some current => merge current update
  | none => update

@[simp] lemma absorb_none (u : CommandEntry) : absorb none u = u := rfl

@[simp] lemma absorb_some (e u : CommandEntry) : absorb (some e) u = merge e u := rfl

lemma id_absorb (e : Option CommandEntry) (u : CommandEntry) : (absorb e u).id = u.id := by
  cases e <;> rfl

/-- The entry of a command behind some updates. -/
def absorbAll (entry : Option CommandEntry) (updates : List CommandEntry) : Option CommandEntry :=
  updates.foldl (fun e u => some (absorb e u)) entry

@[simp] lemma absorbAll_nil (e : Option CommandEntry) : absorbAll e [] = e := rfl

@[simp] lemma absorbAll_cons (e : Option CommandEntry) (u : CommandEntry)
    (us : List CommandEntry) : absorbAll e (u :: us) = absorbAll (some (absorb e u)) us := rfl

lemma absorbAll_append (e : Option CommandEntry) (us vs : List CommandEntry) :
    absorbAll e (us ++ vs) = absorbAll (absorbAll e us) vs :=
  List.foldl_append ..

lemma absorbAll_some (e : CommandEntry) (us : List CommandEntry) :
    absorbAll (some e) us = some (us.foldl merge e) := by
  induction us generalizing e with
  | nil => rfl
  | cons u us ih => rw [absorbAll_cons, ih, absorb_some, List.foldl_cons]

/-- Updates come to the same when they are combined before they are merged into an entry. -/
lemma foldl_merge (e u : CommandEntry) (us : List CommandEntry) :
    us.foldl merge (merge e u) = merge e (us.foldl merge u) := by
  induction us generalizing u with
  | nil => rfl
  | cons v us ih => rw [List.foldl_cons, merge_assoc, ih, List.foldl_cons]

lemma namesOnce_foldl {u : CommandEntry} (hu : u.NamesOnce) (us : List CommandEntry) :
    (us.foldl merge u).NamesOnce := by
  induction us generalizing u with
  | nil => exact hu
  | cons v us ih => exact ih (namesOnce_merge u v)

/-- Updates that come a second time in a row change nothing. -/
theorem absorbAll_again (e : Option CommandEntry) {us : List CommandEntry}
    (hus : ∀ u ∈ us, u.NamesOnce) : absorbAll (absorbAll e us) us = absorbAll e us := by
  cases us with
  | nil => rfl
  | cons u us =>
    have hw : (us.foldl merge u).NamesOnce := namesOnce_foldl (hus u List.mem_cons_self) us
    cases e with
    | none =>
      have hfirst : absorbAll none (u :: us) = some (us.foldl merge u) := absorbAll_some u us
      rw [hfirst, absorbAll_some, List.foldl_cons, foldl_merge, merge_self hw]
    | some e =>
      rw [absorbAll_some, absorbAll_some, List.foldl_cons, List.foldl_cons, foldl_merge,
        foldl_merge, merge_again]

/-- What is known at a time and what comes from an earlier time on share what is between. -/
lemma exists_overlap {α : Type} (xs : List α) {j k : Nat} (hjk : j ≤ k) :
    ∃ before between after, xs = before ++ between ++ after ∧
      xs.take k = before ++ between ∧ xs.drop j = between ++ after := by
  obtain ⟨m, rfl⟩ := Nat.exists_eq_add_of_le hjk
  have htake : xs.take (j + m) = xs.take j ++ (xs.drop j).take m := List.take_add
  refine ⟨xs.take j, (xs.drop j).take m, xs.drop (j + m), ?_, htake, ?_⟩
  · rw [← htake, List.take_append_drop]
  · rw [← List.drop_drop, List.take_append_drop]

/-! ### The index -/

namespace CommandLog

/-- Each command has one entry, and the index tells its place. -/
structure Indexed (log : CommandLog) : Prop where
  distinct : (log.entries.map (·.id)).Nodup
  slot : ∀ id, log.slot? id = log.entries.findIdx? (·.id = id)

variable {log : CommandLog}

lemma slot?_push (log : CommandLog) (e : CommandEntry) (id : String) :
    (log.push e).slot? id = if e.id = id then some log.entries.length else log.slot? id := by
  by_cases hid : e.id = id
  · simp [push, slot?, hid]
  · have hne : (id == e.id) = false := beq_eq_false_iff_ne.mpr (Ne.symm hid)
    simp [push, slot?, List.lookup_cons, hne, hid]

lemma indexed_empty : empty.Indexed := ⟨List.nodup_nil, fun _ => rfl⟩

/-- The entry of a command is the one with its name. -/
theorem Indexed.get?_eq (h : log.Indexed) (id : String) :
    log.get? id = log.entries.find? (·.id = id) := by
  rw [get?, h.slot]
  exact List.find?_eq_bind_findIdx?_getElem?.symm

lemma Indexed.slot_eq_none (h : log.Indexed) {id : String} :
    log.slot? id = none ↔ id ∉ log.entries.map (·.id) := by
  simp [h.slot, List.findIdx?_eq_none_iff]

/-- An entry is put over the one of its command, or behind all others. -/
theorem Indexed.entries_record (h : log.Indexed) (e : CommandEntry) :
    (log.record e).entries = put CommandEntry.id e log.entries := by
  rw [record]
  cases hslot : log.slot? e.id with
  | none => exact append_eq_put (h.slot_eq_none.mp hslot)
  | some slot => exact set_eq_put ((h.slot e.id).symm.trans hslot)

/-- The place of an entry depends on the names of the entries alone. -/
lemma findIdx?_id (entries : List CommandEntry) (id : String) :
    entries.findIdx? (·.id = id) = (entries.map (·.id)).findIdx? (· = id) := by
  rw [List.findIdx?_map]
  rfl

lemma Indexed.record (h : log.Indexed) (e : CommandEntry) : (log.record e).Indexed where
  distinct := by
    rw [h.entries_record, names_put]
    split
    case isTrue => exact h.distinct
    case isFalse hnew =>
      refine List.nodup_append.mpr ⟨h.distinct, List.nodup_singleton _, ?_⟩
      rintro a ha b hb rfl
      exact hnew (List.mem_singleton.mp hb ▸ ha)
  slot := by
    intro id
    rw [findIdx?_id, h.entries_record, names_put, CommandLog.record]
    cases hslot : log.slot? e.id with
    | none =>
      have hnew := h.slot_eq_none.mp hslot
      rw [if_neg hnew, List.findIdx?_append, slot?_push, h.slot, findIdx?_id]
      by_cases hid : e.id = id
      · subst hid
        rw [if_pos rfl, ← findIdx?_id, ← h.slot, hslot]
        simp
      · simp [hid]
    | some slot =>
      have hold : e.id ∈ log.entries.map (·.id) := by
        by_contra hnew
        rw [h.slot_eq_none.mpr hnew] at hslot
        cases hslot
      rw [if_pos hold, ← findIdx?_id]
      exact h.slot id

/-- An update is merged into the entry of its command, which is then put in its place. -/
theorem Indexed.apply_eq (h : log.Indexed) (u : CommandEntry) :
    log.apply u = log.record (absorb (log.get? u.id) u) := by
  rw [apply, CommandLog.record, id_absorb, get?]
  cases hslot : log.slot? u.id with
  | none => rfl
  | some slot =>
    obtain ⟨hlt, -⟩ := List.findIdx?_eq_some_iff_getElem.mp ((h.slot u.id).symm.trans hslot)
    simp [List.getElem?_eq_getElem hlt]

lemma Indexed.apply (h : log.Indexed) (u : CommandEntry) : (log.apply u).Indexed := by
  rw [h.apply_eq]
  exact h.record _

lemma Indexed.applyAll (h : log.Indexed) (us : List CommandEntry) :
    (us.foldl CommandLog.apply log).Indexed := by
  induction us generalizing log with
  | nil => exact h
  | cons u us ih => exact ih (h.apply u)

lemma indexed_foldl_record (h : log.Indexed) (prior : List CommandEntry) :
    (prior.foldl CommandLog.record log).Indexed ∧
      (prior.foldl CommandLog.record log).entries
        = prior.foldl (fun entries e => put CommandEntry.id e entries) log.entries := by
  induction prior generalizing log with
  | nil => exact ⟨h, rfl⟩
  | cons e prior ih =>
    obtain ⟨hindexed, hentries⟩ := ih (h.record e)
    rw [h.entries_record] at hentries
    exact ⟨hindexed, hentries⟩

theorem indexed_ofHistory (prior : List CommandEntry) : (ofHistory prior).Indexed :=
  (indexed_foldl_record indexed_empty prior).1

/-- Of several entries of a command in earlier history the last one counts. -/
theorem entries_ofHistory (prior : List CommandEntry) :
    (ofHistory prior).entries = gather CommandEntry.id prior :=
  (indexed_foldl_record indexed_empty prior).2

/-! ### Entries and their order -/

/-- The entry of a command changes with the updates of that command alone. -/
theorem Indexed.get?_applyAll (h : log.Indexed) (us : List CommandEntry) (id : String) :
    (us.foldl CommandLog.apply log).get? id
      = absorbAll (log.get? id) (us.filter (·.id = id)) := by
  induction us generalizing log with
  | nil => rfl
  | cons u us ih =>
    have hget : (log.apply u).get? id
        = if u.id = id then some (absorb (log.get? id) u) else log.get? id := by
      rw [(h.apply u).get?_eq, h.apply_eq, h.entries_record, find?_put, id_absorb, ← h.get?_eq]
      split
      case isTrue hid => rw [hid]
      case isFalse => rfl
    rw [List.foldl_cons, ih (h.apply u), hget]
    by_cases hid : u.id = id <;> simp [hid]

/-- The entry of a command is the one in the log that has its name. -/
theorem Indexed.get?_eq_some (h : log.Indexed) {id : String} {e : CommandEntry} :
    log.get? id = some e ↔ e ∈ log.entries ∧ e.id = id := by
  rw [h.get?_eq]
  exact find?_eq_some_iff_mem h.distinct

/-- Logs that have the same entry for every command have the same entries. -/
theorem Indexed.entries_perm {log' : CommandLog} (h : log.Indexed) (h' : log'.Indexed)
    (hget : ∀ id, log.get? id = log'.get? id) : log.entries.Perm log'.entries := by
  rw [List.perm_ext_iff_of_nodup h.distinct.of_map h'.distinct.of_map]
  intro e
  have hmem : log.get? e.id = some e ↔ e ∈ log.entries ∧ e.id = e.id := h.get?_eq_some
  rw [hget, h'.get?_eq_some] at hmem
  simpa using hmem.symm

/-- A log that begins with the entries of another one, in any order, has these entries. -/
theorem Indexed.get?_ofHistory (h : log.Indexed) {prior : List CommandEntry}
    (hprior : prior.Perm log.entries) (id : String) : (ofHistory prior).get? id = log.get? id := by
  have hentries : (ofHistory prior).entries = prior := by
    rw [entries_ofHistory, gather_eq_self]
    exact (hprior.map _).nodup_iff.mpr h.distinct
  ext e
  rw [(indexed_ofHistory prior).get?_eq_some, h.get?_eq_some, hentries, hprior.mem_iff]

end CommandLog

/-! ### Snapshots -/

section Order

variable {a b c : Time.Instant}

lemma isBefore_trans (hab : a.isBefore b = false) (hbc : b.isBefore c = false) :
    a.isBefore c = false := by
  simp only [Time.Instant.isBefore, Bool.or_eq_false_iff, Bool.and_eq_false_imp,
    decide_eq_false_iff_not, decide_eq_true_eq] at *
  omega

lemma isBefore_total (a b : Time.Instant) : a.isBefore b = false ∨ b.isBefore a = false := by
  simp only [Time.Instant.isBefore, Bool.or_eq_false_iff, Bool.and_eq_false_imp,
    decide_eq_false_iff_not, decide_eq_true_eq]
  omega

lemma isBefore_antisymm (hab : a.isBefore b = false) (hba : b.isBefore a = false) : a = b := by
  cases a
  cases b
  simp only [Time.Instant.isBefore, Bool.or_eq_false_iff, Bool.and_eq_false_imp,
    decide_eq_false_iff_not, decide_eq_true_eq, Time.Instant.mk.injEq] at *
  omega

end Order

lemma newestFirst_perm (entries : List CommandEntry) : (newestFirst entries).Perm entries :=
  List.mergeSort_perm ..

/-- No entry is listed in front of a newer one. -/
theorem pairwise_newestFirst (entries : List CommandEntry) :
    (newestFirst entries).Pairwise (!·.generated.isBefore ·.generated) := by
  refine List.pairwise_mergeSort (fun a b c => ?_) (fun a b => ?_) entries
  · simpa using isBefore_trans
  · simpa using isBefore_total a.generated b.generated

/-- The newest come first in one way only when no two entries are from one time. -/
theorem newestFirst_eq {xs ys : List CommandEntry} (hperm : xs.Perm ys)
    (hdiffer : (ys.map (·.generated)).Nodup) : newestFirst xs = newestFirst ys := by
  have hxs := (newestFirst_perm xs).trans hperm
  refine List.Perm.eq_of_pairwise ?_ (pairwise_newestFirst xs) (pairwise_newestFirst ys)
    (hxs.trans (newestFirst_perm ys).symm)
  intro a b ha hb hab hba
  have htime : a.generated = b.generated :=
    isBefore_antisymm (by simpa using hab) (by simpa using hba)
  exact List.inj_on_of_nodup_map hdiffer (hxs.subset ha) ((newestFirst_perm ys).subset hb) htime

namespace CommandLog

/-! ### Overlap -/

/-- A log that begins with what another one had at a time, and then gets the updates since an
earlier time, ends with the entries that the other one ends with. -/
theorem replay_agrees (prior earlier us known : List CommandEntry) {j k : Nat} (hjk : j ≤ k)
    (hnames : ∀ u ∈ us, u.NamesOnce)
    (hknown : known.Perm
      ((us.take k).foldl apply (earlier.foldl apply (ofHistory prior))).entries) :
    let replayed := (us.drop j).foldl apply (ofHistory known)
    let whole := us.foldl apply (earlier.foldl apply (ofHistory prior))
    (∀ id, replayed.get? id = whole.get? id) ∧
      replayed.snapshot.Perm whole.snapshot ∧
      ((whole.entries.map (·.generated)).Nodup → replayed.snapshot = whole.snapshot) := by
  intro replayed whole
  have hstart : (earlier.foldl apply (ofHistory prior)).Indexed :=
    (indexed_ofHistory prior).applyAll earlier
  have hreplayed : replayed.Indexed := (indexed_ofHistory known).applyAll _
  have hwhole : whole.Indexed := hstart.applyAll us
  have hget : ∀ id, replayed.get? id = whole.get? id := by
    intro id
    rw [(indexed_ofHistory known).get?_applyAll, (hstart.applyAll _).get?_ofHistory hknown,
      hstart.get?_applyAll, hstart.get?_applyAll]
    obtain ⟨before, between, after, hus, htake, hdrop⟩ := exists_overlap us hjk
    have htwice : ∀ u ∈ between.filter (·.id = id), u.NamesOnce := by
      intro u hu
      have hmem := List.mem_of_mem_filter hu
      exact hnames u (hus ▸ List.mem_append_left _ (List.mem_append_right _ hmem))
    rw [htake, hdrop, hus]
    simp only [List.filter_append, absorbAll_append, absorbAll_again _ htwice]
  have hperm := hreplayed.entries_perm hwhole hget
  refine ⟨hget, ?_, fun hdiffer => newestFirst_eq hperm hdiffer⟩
  exact (newestFirst_perm _).trans (hperm.trans (newestFirst_perm _).symm)

/-- An update of a command that was issued in some second. -/
def updateAt (id : String) (second : Nat) (attributes : List Attribute) : CommandEntry where
  id := id
  commandName := id
  aliases := none
  origin := ""
  sequenceNumber := none
  commandId := none
  attributes := attributes
  generated := ⟨0, second, 0⟩
  assignments := none

/-- An archive that knows two of three updates, the second of which comes once more. -/
theorem replay_agrees_twice :
    let queued := updateAt "open" 1 [⟨"state", .text "queued"⟩]
    let other := updateAt "close" 2 []
    let sent := updateAt "open" 1 [⟨"state", .text "sent"⟩, ⟨"sent", .boolean true⟩]
    ([other, sent].foldl apply (ofHistory ([queued, other].foldl apply empty).entries)).snapshot
      = ([queued, other, sent].foldl apply empty).snapshot := by
  intro queued other sent
  have hnames : ∀ u ∈ [queued, other, sent], u.NamesOnce := by
    intro u hu
    simp only [List.mem_cons, List.not_mem_nil, or_false] at hu
    rcases hu with rfl | rfl | rfl <;>
      exact ⟨by simp [queued, other, sent, updateAt], by simp [queued, other, sent, updateAt]⟩
  exact (replay_agrees [] [] [queued, other, sent] _ (j := 1) (k := 2) (by decide) hnames
    (List.Perm.refl _)).2.2 (by decide)

end CommandLog

end GroundLink.View
