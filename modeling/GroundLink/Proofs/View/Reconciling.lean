import GroundLink.Proofs.View.Combining

/-!
# What a merge makes

A merged entry is determined by a rule for each of its fields: of named items the last one of each
name stays, in the order in which the names first appear, optional fields fall back to what was
known before, and all others are the update's. An entry is its own merge exactly where it names
nothing twice, and an update that comes once more changes nothing; so a log does not notice an
update that is delivered again, unless it is the first one of its command and names something twice.
-/

namespace GroundLink.View

open Model

variable {α : Type} {name : α → String} {xs zs : List α}

/-! ### Named items -/

/-- Items are what is kept of a list: one to a name, in the order in which the names first appear,
and each of them the last one with its name. -/
structure KeptOf (name : α → String) (xs zs : List α) : Prop where
  distinct : (zs.map name).Nodup
  names : zs.map name = (xs.map name).eraseDups
  last : ∀ z ∈ zs, ∃ before after, xs = before ++ z :: after ∧ name z ∉ after.map name

/-- The first item from the end is the last one with its name. -/
lemma find?_reverse_eq_some {x : α} {n : String} :
    xs.reverse.find? (name · = n) = some x
      ↔ name x = n ∧ ∃ before after, xs = before ++ x :: after ∧ name x ∉ after.map name := by
  rw [List.find?_eq_some_iff_append, decide_eq_true_eq]
  refine and_congr_right fun hx => ⟨?_, ?_⟩
  · rintro ⟨after, before, hxs, hafter⟩
    refine ⟨before.reverse, after.reverse, ?_, ?_⟩
    · rw [← List.reverse_reverse xs, hxs]
      simp
    · simpa [hx] using hafter
  · rintro ⟨before, after, rfl, hafter⟩
    refine ⟨after.reverse, before.reverse, by simp, ?_⟩
    simpa [hx] using hafter

lemma keptOf_gather (xs : List α) : KeptOf name xs (gather name xs) where
  distinct := nodup_gather xs
  names := names_gather xs
  last := by
    intro z hz
    have hfind := (find?_eq_some_iff_mem (nodup_gather xs)).mpr ⟨hz, rfl⟩
    rw [find?_gather] at hfind
    exact (find?_reverse_eq_some.mp hfind).2

/-- There is one way to keep items of a list. -/
theorem keptOf_iff : KeptOf name xs zs ↔ zs = gather name xs := by
  refine ⟨fun h => ?_, by rintro rfl; exact keptOf_gather xs⟩
  refine eq_of_find? h.distinct (h.names.trans (names_gather xs).symm) fun n => ?_
  rw [find?_gather]
  cases hfind : zs.find? (name · = n) with
  | some z =>
    obtain ⟨hz, hname⟩ := (find?_eq_some_iff_mem h.distinct).mp hfind
    exact (find?_reverse_eq_some.mpr ⟨hname, h.last z hz⟩).symm
  | none =>
    -- A name that nothing is kept of does not appear at all.
    have habsent : n ∉ xs.map name := by
      rw [← List.mem_eraseDups, ← h.names]
      simpa using hfind
    symm
    simpa using habsent

/-! ### Entries -/

/-- What becomes of an entry with an update of its command put over it. -/
structure MergedOf (current incoming merged : CommandEntry) : Prop where
  attributes : KeptOf Attribute.name (current.attributes ++ incoming.attributes) merged.attributes
  unassigned :
    merged.assignments = none ↔ current.assignments = none ∧ incoming.assignments = none
  assignments : ∀ zs ∈ merged.assignments,
    KeptOf Assignment.name (current.assignments.getD [] ++ incoming.assignments.getD []) zs
  id : merged.id = incoming.id
  commandName : merged.commandName = incoming.commandName
  origin : merged.origin = incoming.origin
  generated : merged.generated = incoming.generated
  aliases : merged.aliases = incoming.aliases.or current.aliases
  sequenceNumber : merged.sequenceNumber = incoming.sequenceNumber.or current.sequenceNumber
  commandId : merged.commandId = incoming.commandId.or current.commandId

lemma mergeAssignments_eq_none {a b : Option (List Assignment)} :
    mergeAssignments a b = none ↔ a = none ∧ b = none := by
  cases a <;> cases b <;> simp [mergeAssignments]

lemma mergedOf_merge (current incoming : CommandEntry) :
    MergedOf current incoming (merge current incoming) where
  attributes := keptOf_gather _
  unassigned := mergeAssignments_eq_none
  assignments := by
    intro zs hzs
    have hget := getD_mergeAssignments current.assignments incoming.assignments
    have hassigned : mergeAssignments current.assignments incoming.assignments = some zs := hzs
    rw [hassigned] at hget
    exact keptOf_iff.mpr hget
  id := rfl
  commandName := rfl
  origin := rfl
  generated := rfl
  aliases := Option.orElse_eq_or
  sequenceNumber := Option.orElse_eq_or
  commandId := Option.orElse_eq_or

/-- Each field of a merged entry has its rule, and the rules leave no choice. -/
theorem merge_eq_iff (current incoming merged : CommandEntry) :
    merge current incoming = merged ↔ MergedOf current incoming merged := by
  refine ⟨by rintro rfl; exact mergedOf_merge current incoming, fun h => ?_⟩
  have hmerge := mergedOf_merge current incoming
  have hattributes : (merge current incoming).attributes = merged.attributes :=
    (keptOf_iff.mp hmerge.attributes).trans (keptOf_iff.mp h.attributes).symm
  have hassignments : (merge current incoming).assignments = merged.assignments := by
    cases hassigned : merged.assignments with
    | none => exact hmerge.unassigned.mpr (h.unassigned.mp hassigned)
    | some zs => cases hmerged : (merge current incoming).assignments with
      | none =>
        rw [h.unassigned.mpr (hmerge.unassigned.mp hmerged)] at hassigned
        cases hassigned
      | some ws =>
        rw [keptOf_iff.mp (hmerge.assignments ws hmerged),
          keptOf_iff.mp (h.assignments zs hassigned)]
  cases merged
  simp only [merge, CommandEntry.mk.injEq] at hattributes hassignments ⊢
  exact ⟨h.id.symm, h.commandName.symm, hmerge.aliases.trans h.aliases.symm, h.origin.symm,
    hmerge.sequenceNumber.trans h.sequenceNumber.symm, hmerge.commandId.trans h.commandId.symm,
    hattributes, h.generated.symm, hassignments⟩

/-! ### Updates that come again -/

/-- An entry is its own merge only if it names nothing twice. -/
lemma merge_self_iff {a : CommandEntry} : merge a a = a ↔ a.NamesOnce :=
  ⟨fun h => h ▸ namesOnce_merge a a, merge_self⟩

namespace CommandLog

/-- A log takes an update twice as it takes the update's own merge. -/
lemma Indexed.apply_twice {log : CommandLog} (h : log.Indexed) (u : CommandEntry) :
    (log.apply u).apply u = log.apply u ↔ (log.get? u.id).isSome ∨ u.NamesOnce := by
  rw [apply_apply log rfl, ← merge_self_iff]
  cases hslot : log.slot? u.id with
  | none =>
    have hself : log.slot? (merge u u).id = none := hslot
    rw [apply_of_none hself, apply_of_none hslot, get?, hslot, push, push]
    simp [merge]
  | some slot =>
    obtain ⟨e, he, -⟩ := h.entry_of_slot hslot
    have hself : log.slot? (merge u u).id = some slot := hslot
    rw [apply_of_some hself he, apply_of_some hslot he, ← merge_assoc, merge_again, get?, hslot]
    simp [he]

/-- An entry is its own merge exactly if it names nothing twice. What has been merged into an entry
changes nothing when it is merged once more, whatever it names; so an update that is delivered again
changes a log only if its command was new to the log and it names something twice. -/
theorem redelivered :
    (∀ a : CommandEntry, merge a a = a ↔ a.NamesOnce)
      ∧ (∀ a b : CommandEntry, merge (merge a b) b = merge a b)
      ∧ ∀ (prior us : List CommandEntry) (u : CommandEntry),
        let log := us.foldl apply (ofHistory prior)
        (log.apply u).apply u = log.apply u ↔ (log.get? u.id).isSome ∨ u.NamesOnce :=
  ⟨fun _ => merge_self_iff, merge_again,
    fun prior us u => ((indexed_ofHistory prior).applyAll us).apply_twice u⟩

end CommandLog

end GroundLink.View
