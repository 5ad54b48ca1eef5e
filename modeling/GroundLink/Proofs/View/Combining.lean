import GroundLink.Proofs.View.CommandLog

/-!
# Combined updates

Since merging is associative, updates of a command may be combined before a log takes them. For a
whole batch of updates a log of its own does this: it has one combined update to a command, and a
log that takes these ends as if it had taken the batch.
-/

namespace GroundLink.View

open Model

namespace CommandLog

variable {log : CommandLog} {u v : CommandEntry} {id : String}

@[simp] lemma slot?_replace (log : CommandLog) (slot : Nat) (u : CommandEntry) (id : String) :
    (log.replace slot u).slot? id = log.slot? id := rfl

lemma apply_of_none (h : log.slot? u.id = none) : log.apply u = log.push u := by
  rw [apply, h]

lemma apply_of_some {slot : Nat} {e : CommandEntry} (h : log.slot? u.id = some slot)
    (he : log.entries[slot]? = some e) : log.apply u = log.replace slot (merge e u) := by
  rw [apply, h]
  simp only [he]

/-- A place outside of the log takes nothing. -/
lemma apply_of_dangling {slot : Nat} (h : log.slot? u.id = some slot)
    (he : log.entries[slot]? = none) : log.apply u = log := by
  rw [apply, h]
  simp only [he]

/-! ### Updates of one command -/

/-- Two updates of one command count as one. -/
theorem apply_apply (log : CommandLog) (hid : v.id = u.id) :
    (log.apply u).apply v = log.apply (merge u v) := by
  have hboth : (merge u v).id = u.id := hid
  cases hslot : log.slot? u.id with
  | none =>
    have hpushed : (log.push u).slot? v.id = some log.entries.length := by
      rw [slot?_push, if_pos hid.symm]
    have hlast : (log.push u).entries[log.entries.length]? = some u := by simp [push]
    rw [apply_of_none hslot, apply_of_some hpushed hlast, apply_of_none (hboth ▸ hslot)]
    simp [push, replace, hboth]
  | some slot =>
    cases he : log.entries[slot]? with
    | none =>
      rw [apply_of_dangling hslot he, apply_of_dangling (hid ▸ hslot) he,
        apply_of_dangling (hboth ▸ hslot) he]
    | some e =>
      obtain ⟨hlt, -⟩ := List.getElem?_eq_some_iff.mp he
      have hmerged : (log.replace slot (merge e u)).entries[slot]? = some (merge e u) := by
        simp [replace, hlt]
      have hkept : (log.replace slot (merge e u)).slot? v.id = some slot := hid ▸ hslot
      rw [apply_of_some hslot he, apply_of_some hkept hmerged,
        apply_of_some (hboth ▸ hslot) he, merge_assoc]
      simp [replace]

/-- Updates of one command count as the update that they combine to. -/
theorem applyAll_combined (log : CommandLog) (u : CommandEntry) (us : List CommandEntry)
    (hus : ∀ v ∈ us, v.id = u.id) :
    (u :: us).foldl apply log = log.apply (us.foldl merge u) := by
  induction us generalizing u with
  | nil => rfl
  | cons v us ih =>
    have hid : v.id = u.id := hus v List.mem_cons_self
    have hrest : ∀ w ∈ us, w.id = (merge u v).id := fun w hw =>
      (hus w (List.mem_cons_of_mem v hw)).trans hid.symm
    rw [List.foldl_cons, List.foldl_cons, apply_apply log hid, List.foldl_cons]
    exact ih (merge u v) hrest

/-! ### Updates of several commands -/

/-- The entry of a command is in its place. -/
lemma Indexed.entry_of_slot (h : log.Indexed) {slot : Nat} (hslot : log.slot? id = some slot) :
    ∃ e, log.entries[slot]? = some e ∧ e.id = id := by
  obtain ⟨hlt, he, -⟩ := List.findIdx?_eq_some_iff_getElem.mp ((h.slot id).symm.trans hslot)
  exact ⟨log.entries[slot], List.getElem?_eq_getElem hlt, of_decide_eq_true he⟩

/-- Updates of different commands may change places where one of the commands is known. -/
lemma Indexed.apply_comm (h : log.Indexed) {slot : Nat} (hu : log.slot? u.id = some slot)
    (hid : v.id ≠ u.id) : (log.apply u).apply v = (log.apply v).apply u := by
  obtain ⟨e, he, heid⟩ := h.entry_of_slot hu
  obtain ⟨hlt, -⟩ := List.getElem?_eq_some_iff.mp he
  rw [apply_of_some hu he]
  cases hv : log.slot? v.id with
  | none =>
    have hv' : (log.replace slot (merge e u)).slot? v.id = none := hv
    have hu' : (log.push v).slot? u.id = some slot := by
      rw [slot?_push, if_neg hid, hu]
    have he' : (log.push v).entries[slot]? = some e := by
      rw [push, List.getElem?_append_left hlt, he]
    rw [apply_of_none hv', apply_of_none hv, apply_of_some hu' he']
    simp [push, replace, List.set_append_left _ _ hlt]
  | some place =>
    obtain ⟨f, hf, hfid⟩ := h.entry_of_slot hv
    have hne : place ≠ slot := by
      rintro rfl
      obtain rfl : f = e := Option.some.inj (hf.symm.trans he)
      exact hid (hfid.symm.trans heid)
    have hv' : (log.replace slot (merge e u)).slot? v.id = some place := hv
    have hu' : (log.replace place (merge f v)).slot? u.id = some slot := hu
    have hf' : (log.replace slot (merge e u)).entries[place]? = some f := by
      rw [replace, List.getElem?_set_ne hne.symm, hf]
    have he' : (log.replace place (merge f v)).entries[slot]? = some e := by
      rw [replace, List.getElem?_set_ne hne, he]
    rw [apply_of_some hv' hf', apply_of_some hv hf, apply_of_some hu' he']
    simp [replace, List.set_comm _ _ hne]

/-- A command that is known stays known, and in its place. -/
lemma slot?_apply {slot : Nat} (h : log.slot? id = some slot) (hid : v.id ≠ id) :
    (log.apply v).slot? id = some slot := by
  cases hv : log.slot? v.id with
  | none => rw [apply_of_none hv, slot?_push, if_neg hid, h]
  | some place => cases he : log.entries[place]? with
    | none => rwa [apply_of_dangling hv he]
    | some e => rwa [apply_of_some hv he, slot?_replace]

lemma Indexed.applyAll_comm (h : log.Indexed) {slot : Nat} (hu : log.slot? u.id = some slot)
    (vs : List CommandEntry) (hvs : ∀ v ∈ vs, v.id ≠ u.id) :
    vs.foldl CommandLog.apply (log.apply u) = (vs.foldl CommandLog.apply log).apply u := by
  induction vs generalizing log with
  | nil => rfl
  | cons v vs ih =>
    have hv : v.id ≠ u.id := hvs v List.mem_cons_self
    rw [List.foldl_cons, List.foldl_cons, h.apply_comm hu hv]
    exact ih (h.apply v) (slot?_apply hu hv) fun w hw => hvs w (List.mem_cons_of_mem v hw)

lemma Indexed.isSome_slot?_apply (h : log.Indexed) (u : CommandEntry) :
    ∃ slot, (log.apply u).slot? u.id = some slot := by
  rw [← Option.isSome_iff_exists, Option.isSome_iff_ne_none, ne_eq, (h.apply u).slot_eq_none,
    not_not, h.apply_eq, h.entries_record, names_put, id_absorb]
  split
  case isTrue hold => exact hold
  case isFalse => exact List.mem_append_right _ (List.mem_singleton_self _)

/-- An item that is put over another one has the others around it. -/
lemma put_append_cons {α : Type} {name : α → String} {x y : α} {xs ys : List α}
    (hxs : name x ∉ xs.map name) (hy : name y = name x) :
    put name x (xs ++ y :: ys) = xs ++ x :: ys := by
  induction xs with
  | nil => simp [put, hy]
  | cons z xs ih =>
    rw [List.map_cons, List.mem_cons, not_or] at hxs
    rw [List.cons_append, put, if_neg (Ne.symm hxs.1), ih hxs.2, List.cons_append]

/-- An update may be combined with an earlier one of its command among updates of others. -/
lemma Indexed.applyAll_apply (h : log.Indexed) {earlier : CommandLog} (hearlier : earlier.Indexed) :
    (earlier.apply u).entries.foldl CommandLog.apply log
      = (earlier.entries.foldl CommandLog.apply log).apply u := by
  rw [hearlier.apply_eq, hearlier.entries_record, hearlier.get?_eq]
  cases hfind : earlier.entries.find? (·.id = u.id) with
  | none =>
    have hnew : u.id ∉ earlier.entries.map (·.id) := by
      simpa [List.find?_eq_none] using hfind
    rw [absorb_none, ← append_eq_put hnew, List.foldl_append]
    rfl
  | some e =>
    obtain ⟨heid, xs, ys, hentries, hxs⟩ := List.find?_eq_some_iff_append.mp hfind
    have heid : e.id = u.id := of_decide_eq_true heid
    have hdistinct := hearlier.distinct
    rw [hentries, List.map_append, List.map_cons, heid, List.nodup_middle, List.nodup_cons,
      List.mem_append, not_or] at hdistinct
    obtain ⟨⟨hbefore, hbehind⟩, -⟩ := hdistinct
    have hothers : ∀ v ∈ ys, v.id ≠ u.id := fun v hv hid =>
      hbehind (List.mem_map.mpr ⟨v, hv, hid⟩)
    have hlog := h.applyAll xs
    obtain ⟨slot, hslot⟩ := hlog.isSome_slot?_apply e
    rw [hentries, absorb_some, put_append_cons (x := merge e u) hbefore heid, List.foldl_append,
      List.foldl_cons, List.foldl_append, List.foldl_cons, ← apply_apply _ heid.symm]
    exact (hlog.apply e).applyAll_comm (heid ▸ hslot) ys hothers

/-- A batch of updates may be combined in a log of its own, one to a command. -/
theorem Indexed.applyAll_batch (h : log.Indexed) (us : List CommandEntry) :
    (us.foldl CommandLog.apply empty).entries.foldl CommandLog.apply log
      = us.foldl CommandLog.apply log := by
  induction us using List.reverseRecOn with
  | nil => rfl
  | append_singleton us u ih =>
    rw [List.foldl_append, List.foldl_cons, List.foldl_nil,
      h.applyAll_apply (indexed_empty.applyAll us), ih, List.foldl_append]
    rfl

/-- Merging is associative: updates may be combined before they are applied, those of one command
to any log, and a whole batch of updates, by their commands, to a log that knows its entries. -/
theorem updates_combine :
    (∀ a b c : CommandEntry, merge (merge a b) c = merge a (merge b c)) ∧
      (∀ (log : CommandLog) (u : CommandEntry) (us : List CommandEntry),
        (∀ v ∈ us, v.id = u.id) → (u :: us).foldl apply log = log.apply (us.foldl merge u)) ∧
      (∀ log : CommandLog, log.Indexed → ∀ us : List CommandEntry,
        (us.foldl apply empty).entries.foldl apply log = us.foldl apply log) :=
  ⟨merge_assoc, applyAll_combined, fun _ h us => h.applyAll_batch us⟩

/-- Updates that name an attribute twice, with assignments in one of them alone, and an update of
another command between them. -/
theorem updates_combine_interleaved :
    let queued : CommandEntry :=
      { updateAt "open" 1 [⟨"state", .text "queued"⟩, ⟨"state", .text "held"⟩] with
        aliases := some [] }
    let other := updateAt "close" 2 []
    let sent : CommandEntry :=
      { updateAt "open" 1 [⟨"sent", .boolean true⟩, ⟨"state", .text "sent"⟩] with
        assignments := some [⟨"valve", .text "2", true⟩, ⟨"valve", .text "3", true⟩] }
    let done := updateAt "open" 1 [⟨"state", .text "done"⟩]
    merge (merge queued sent) done = merge queued (merge sent done) ∧
      [queued, sent, done].foldl apply empty = empty.apply (merge (merge queued sent) done) ∧
      ([queued, other, sent, done].foldl apply empty).entries.foldl apply empty
        = [queued, other, sent, done].foldl apply empty := by
  intro queued other sent done
  have hsame : ∀ v ∈ [sent, done], v.id = queued.id := by
    intro v hv
    simp only [List.mem_cons, List.not_mem_nil, or_false] at hv
    rcases hv with rfl | rfl <;> rfl
  exact ⟨updates_combine.1 queued sent done, updates_combine.2.1 empty queued _ hsame,
    updates_combine.2.2 empty indexed_empty _⟩

end CommandLog

end GroundLink.View
