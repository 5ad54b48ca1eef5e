import GroundLink.Proofs.View.CommandLog

/-!
# The order of arrival

A log has one entry to a command, made of the command's own entries and updates in their order. It
shows the newest entry first, and entries of one time in the order in which their commands first
came up. So it does not matter in which order updates of different commands arrive, unless their
entries end with the same time.
-/

namespace GroundLink.View

open Model

/-! ### First appearances -/

lemma pairwise_eraseDups (ns : List String) :
    ns.eraseDups.Pairwise fun m n => ns.idxOf m < ns.idxOf n := by
  induction ns using List.reverseRecOn with
  | nil => exact .nil
  | append_singleton ns n ih =>
    have hkept : ns.eraseDups.Pairwise fun m k => (ns ++ [n]).idxOf m < (ns ++ [n]).idxOf k := by
      refine ih.imp_of_mem fun hm hk hlt => ?_
      rw [List.idxOf_append_of_mem (List.mem_eraseDups.mp hm),
        List.idxOf_append_of_mem (List.mem_eraseDups.mp hk)]
      exact hlt
    rw [eraseDups_concat]
    split
    case isTrue => exact hkept
    case isFalse hnew =>
      refine List.pairwise_append.mpr ⟨hkept, List.pairwise_singleton _ _, ?_⟩
      intro m hm k hk
      have hm' : m ∈ ns := List.mem_eraseDups.mp hm
      rw [List.mem_singleton.mp hk, List.idxOf_append_of_mem hm', List.idxOf_append_of_notMem hnew]
      exact Nat.lt_add_right _ (List.idxOf_lt_length_of_mem hm')

/-- Of two members of a list one is in front of the other. -/
lemma pair_sublist {α : Type} {a b : α} {xs : List α} (ha : a ∈ xs) (hb : b ∈ xs) (hab : a ≠ b) :
    [a, b].Sublist xs ∨ [b, a].Sublist xs := by
  induction xs with
  | nil => cases ha
  | cons x xs ih =>
    rw [List.mem_cons] at ha hb
    rcases ha with rfl | ha
    · exact .inl ((List.singleton_sublist.mpr (hb.resolve_left (Ne.symm hab))).cons_cons a)
    · rcases hb with rfl | hb
      · exact .inr ((List.singleton_sublist.mpr ha).cons_cons b)
      · exact (ih ha hb).imp (·.cons x) (·.cons x)

lemma not_pair_sublist {m n : String} {ns : List String} (hdistinct : ns.Nodup)
    (hmn : [m, n].Sublist ns) : ¬[n, m].Sublist ns := by
  have hplaces : ns.Pairwise fun m n => ns.idxOf m < ns.idxOf n := by
    rw [List.pairwise_iff_getElem]
    intro i j hi hj hij
    rwa [hdistinct.idxOf_getElem, hdistinct.idxOf_getElem]
  rw [List.pairwise_iff_forall_sublist] at hplaces
  exact fun hnm => Nat.lt_asymm (hplaces hmn) (hplaces hnm)

/-! ### Entries of one time -/

/-- Whether one entry is listed in front of another: it is newer, or of the same time and its
command comes first among some commands. -/
def Precedes (ids : List String) (a b : CommandEntry) : Prop :=
  b.generated.isBefore a.generated = true
    ∨ a.generated = b.generated ∧ ids.idxOf a.id < ids.idxOf b.id

instance (ids : List String) (a b : CommandEntry) : Decidable (Precedes ids a b) :=
  inferInstanceAs (Decidable (_ ∨ _))

/-- Entries of one time stay in their order. -/
theorem precedes_newestFirst {ids : List String} {entries : List CommandEntry}
    (hids : entries.map (·.id) = ids.eraseDups) :
    (newestFirst entries).Pairwise (Precedes ids) := by
  have hrank : entries.Pairwise fun a b => ids.idxOf a.id < ids.idxOf b.id := by
    have hpairs := pairwise_eraseDups ids
    rwa [← hids, List.pairwise_map] at hpairs
  have hperm := newestFirst_perm entries
  have hdistinct : ((newestFirst entries).map (·.id)).Nodup := by
    rw [(hperm.map _).nodup_iff, hids]
    exact nodup_eraseDups ids
  rw [List.pairwise_iff_forall_sublist]
  intro a b hab
  have hnewer : a.generated.isBefore b.generated = false := by
    simpa using List.pairwise_iff_forall_sublist.mp (pairwise_newestFirst entries) hab
  by_cases hbefore : b.generated.isBefore a.generated = true
  · exact .inl hbefore
  · have htime : a.generated = b.generated :=
      isBefore_antisymm hnewer (eq_false_of_ne_true hbefore)
    have hne : a ≠ b := by simpa using hdistinct.of_map.sublist hab
    have ha : a ∈ entries := hperm.subset (hab.subset (by simp))
    have hb : b ∈ entries := hperm.subset (hab.subset (by simp))
    refine .inr ⟨htime, ?_⟩
    rcases pair_sublist ha hb hne with hin | hin
    · exact List.pairwise_iff_forall_sublist.mp hrank hin
    · -- The sort is stable, so the other order would have been kept.
      have hkept : [b, a].Sublist (newestFirst entries) := by
        refine List.pair_sublist_mergeSort (fun a b c => ?_) (fun a b => ?_) ?_ hin
        · simpa using isBefore_trans
        · simpa using isBefore_total a.generated b.generated
        · simpa using hbefore
      exact absurd (hkept.map CommandEntry.id)
        (not_pair_sublist hdistinct (hab.map CommandEntry.id))

namespace CommandLog

variable {log : CommandLog}

/-! ### Entries -/

/-- The entry that earlier entries and updates of one command make. -/
def entryOf (earlier updates : List CommandEntry) : Option CommandEntry :=
  match earlier.getLast?, updates with
  | some entry, updates => some (updates.foldl merge entry)
  | none, first :: updates => some (updates.foldl merge first)
  | none, [] => none

lemma entryOf_eq (earlier updates : List CommandEntry) :
    entryOf earlier updates = absorbAll earlier.getLast? updates := by
  unfold entryOf
  cases earlier.getLast? with
  | some entry => exact (absorbAll_some entry updates).symm
  | none => cases updates with
    | nil => rfl
    | cons first updates => exact (absorbAll_some first updates).symm

lemma get?_ofHistory (prior : List CommandEntry) (id : String) :
    (ofHistory prior).get? id = (prior.filter (·.id = id)).getLast? := by
  rw [(indexed_ofHistory prior).get?_eq, entries_ofHistory, find?_gather,
    List.getLast?_eq_head?_reverse, ← List.filter_reverse, List.head?_filter]

/-- Commands keep the places of their first appearance. -/
lemma ids_applyAll (prior us : List CommandEntry) :
    (us.foldl apply (ofHistory prior)).entries.map (·.id)
      = ((prior ++ us).map (·.id)).eraseDups := by
  induction us using List.reverseRecOn with
  | nil => rw [List.foldl_nil, entries_ofHistory, names_gather, List.append_nil]
  | append_singleton us u ih =>
    have hlog := (indexed_ofHistory prior).applyAll us
    have hids : (prior ++ (us ++ [u])).map (·.id) = (prior ++ us).map (·.id) ++ [u.id] := by
      rw [← List.append_assoc, List.map_append, List.map_singleton]
    rw [hids, List.foldl_append, List.foldl_cons, List.foldl_nil, hlog.apply_eq,
      hlog.entries_record, names_put, id_absorb, ih, eraseDups_concat]
    simp only [List.mem_eraseDups]

/-- The entries of a log are those that are found under the names of its commands. -/
lemma Indexed.filterMap_get? (h : log.Indexed) :
    (log.entries.map (·.id)).filterMap log.get? = log.entries := by
  rw [List.filterMap_map]
  refine (List.filterMap_congr fun e he => ?_).trans (List.filterMap_some (l := log.entries))
  exact h.get?_eq_some.mpr ⟨he, rfl⟩

/-- A log has one entry to a command that has come up, which its last earlier entry and its updates
make, merged one after another; without an earlier entry the first update is where this begins. The
newest entries are shown first, and those of one time in the order in which their commands first
came up. -/
theorem folds_by_command (prior us : List CommandEntry) :
    let log := us.foldl apply (ofHistory prior)
    let ids := (prior ++ us).map (·.id)
    (∀ id, log.get? id = entryOf (prior.filter (·.id = id)) (us.filter (·.id = id)))
      ∧ (∀ id, (log.get? id).isSome ↔ id ∈ ids)
      ∧ log.size = ids.eraseDups.length
      ∧ (∀ u id, u.id ≠ id → (log.apply u).get? id = log.get? id)
      ∧ log.snapshot.Perm (ids.eraseDups.filterMap log.get?)
      ∧ log.snapshot.Pairwise (Precedes ids) := by
  intro log ids
  have hlog : log.Indexed := (indexed_ofHistory prior).applyAll us
  have hids : log.entries.map (·.id) = ids.eraseDups := ids_applyAll prior us
  refine ⟨fun id => ?_, fun id => ?_, ?_, fun u id hu => ?_, ?_, precedes_newestFirst hids⟩
  · rw [(indexed_ofHistory prior).get?_applyAll, get?_ofHistory, entryOf_eq]
  · have hmem : id ∈ log.entries.map (·.id) ↔ id ∈ ids := by rw [hids, List.mem_eraseDups]
    rw [hlog.get?_eq, List.find?_isSome, ← hmem, List.mem_map]
    simp only [decide_eq_true_eq]
  · rw [← hids, List.length_map]
    rfl
  · have hone := hlog.get?_applyAll [u] id
    rwa [List.filter_cons_of_neg (by simpa using hu), List.filter_nil] at hone
  · rw [← hids, hlog.filterMap_get?]
    exact newestFirst_perm log.entries

/-- A command that an update makes newer overtakes another one, which keeps its entry. -/
theorem folds_by_command_overtaken :
    let prior := [updateAt "open" 1 [], updateAt "ping" 2 [], updateAt "open" 3 []]
    let log := [updateAt "close" 3 [], updateAt "ping" 4 []].foldl apply (ofHistory prior)
    log.get? "open" = some (updateAt "open" 3 [])
      ∧ "ping" ≠ "open"
      ∧ (log.apply (updateAt "ping" 5 [])).get? "open" = log.get? "open"
      ∧ log.snapshot.map (·.id) = ["ping", "open", "close"] := by
  intro prior log
  have hfolds := folds_by_command prior [updateAt "close" 3 [], updateAt "ping" 4 []]
  have hentries :
      log.entries = [updateAt "open" 3 [], updateAt "ping" 4 [], updateAt "close" 3 []] := rfl
  refine ⟨(hfolds.1 "open").trans rfl, by decide, hfolds.2.2.2.1 _ _ (by decide), ?_⟩
  rw [snapshot, hentries]
  simp +decide [newestFirst, List.mergeSort, List.MergeSort.Internal.splitInTwo, updateAt]

/-- Updates that come in another order, but for each command in the same one, make the same entries.
They are shown in the same order as well, if no two of them end with the same time. -/
theorem arrival_immaterial (prior us vs : List CommandEntry)
    (hsame : ∀ id, us.filter (·.id = id) = vs.filter (·.id = id)) :
    let log := us.foldl apply (ofHistory prior)
    let log' := vs.foldl apply (ofHistory prior)
    (∀ id, log.get? id = log'.get? id) ∧ log.snapshot.Perm log'.snapshot
      ∧ ((log.entries.map (·.generated)).Nodup → log.snapshot = log'.snapshot) := by
  intro log log'
  have hlog : log.Indexed := (indexed_ofHistory prior).applyAll us
  have hlog' : log'.Indexed := (indexed_ofHistory prior).applyAll vs
  have hget : ∀ id, log.get? id = log'.get? id := by
    intro id
    rw [(indexed_ofHistory prior).get?_applyAll, (indexed_ofHistory prior).get?_applyAll, hsame]
  have hperm : log.entries.Perm log'.entries := hlog.entries_perm hlog' hget
  refine ⟨hget, ?_, fun hdiffer => ?_⟩
  · exact (newestFirst_perm _).trans (hperm.trans (newestFirst_perm _).symm)
  · exact newestFirst_eq hperm ((hperm.map _).nodup_iff.mp hdiffer)

/-- Two updates of a command, and an update of another one that comes before or between them. -/
theorem arrival_immaterial_between :
    let queued := updateAt "open" 1 [⟨"state", .text "queued"⟩]
    let sent := updateAt "open" 1 [⟨"state", .text "sent"⟩]
    let other := updateAt "close" 2 []
    (∀ id, [queued, other, sent].filter (·.id = id) = [other, queued, sent].filter (·.id = id))
      ∧ ([queued, other, sent].foldl apply empty).snapshot
        = ([other, queued, sent].foldl apply empty).snapshot := by
  intro queued sent other
  have hsame : ∀ id, [queued, other, sent].filter (·.id = id)
      = [other, queued, sent].filter (·.id = id) := by
    intro id
    by_cases hid : "open" = id
    · subst hid
      rfl
    · have hqueued : ¬queued.id = id := hid
      have hsent : ¬sent.id = id := hid
      simp [List.filter_cons, hqueued, hsent]
  exact ⟨hsame, (arrival_immaterial [] _ _ hsame).2.2 (by decide)⟩

end CommandLog

end GroundLink.View
