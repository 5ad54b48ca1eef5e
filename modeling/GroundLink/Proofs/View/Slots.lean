import GroundLink.Proofs.View.Arrival
import GroundLink.Proofs.View.Combining

/-!
# Slots

The index of a log says in which slot the entry of a command is. Entries are overwritten by others
that come from earlier history or from a merge, and nothing looks at the index again when this is
done. The two stay in step because an entry is only ever put over one of the same command, and
because a new command gets the next slot among the entries and in the index alike: at any time the
index is the list of the entries' commands, numbered.

So no slot that the index names is missing, and reading or writing there cannot fail. A command
keeps its slot for as long as the log lives.
-/

namespace GroundLink.View.CommandLog

open Model

variable {log later : CommandLog} {id : String}

/-! ### Numbers -/

/-- A log whose index is the list of its entries' commands, numbered, the last one first. -/
structure Numbered (log : CommandLog) : Prop extends log.Indexed where
  numbers : log.index = (log.entries.map (·.id)).zipIdx.reverse

lemma numbered_empty : empty.Numbered := ⟨indexed_empty, rfl⟩

/-- An entry leaves the commands as they are, or it is of a new one, which gets the next number. -/
lemma Numbered.record (h : log.Numbered) (e : CommandEntry) : (log.record e).Numbered where
  toIndexed := h.toIndexed.record e
  numbers := by
    rw [h.entries_record, names_put, CommandLog.record]
    cases hslot : log.slot? e.id with
    | none =>
      have hnew : e.id ∉ log.entries.map (·.id) := h.slot_eq_none.mp hslot
      rw [if_neg hnew, List.zipIdx_append, List.zipIdx_singleton, List.reverse_concat,
        List.length_map, Nat.zero_add, ← h.numbers]
      rfl
    | some slot =>
      obtain ⟨current, hcurrent, hid⟩ := h.entry_of_slot hslot
      have hold : e.id ∈ log.entries.map (·.id) :=
        List.mem_map.mpr ⟨current, List.mem_of_getElem? hcurrent, hid⟩
      rw [if_pos hold]
      exact h.numbers

lemma Numbered.apply (h : log.Numbered) (u : CommandEntry) : (log.apply u).Numbered := by
  rw [h.apply_eq]
  exact h.record _

lemma numbered_ofHistory (prior : List CommandEntry) : (ofHistory prior).Numbered := by
  induction prior using List.reverseRecOn with
  | nil => exact numbered_empty
  | append_singleton prior e ih =>
    rw [ofHistory, List.foldl_append]
    exact ih.record e

lemma Numbered.applyAll (h : log.Numbered) (us : List CommandEntry) :
    (us.foldl CommandLog.apply log).Numbered := by
  induction us generalizing log with
  | nil => exact h
  | cons u us ih => exact ih (h.apply u)

/-! ### Agreement -/

/-- The command whose entry is in a slot. -/
def command? (log : CommandLog) (slot : Nat) : Option String :=
  (log.entries[slot]?).map (·.id)

lemma command?_eq (log : CommandLog) (slot : Nat) :
    log.command? slot = (log.entries.map (·.id))[slot]? :=
  List.getElem?_map.symm

/-- The index of a log and its entries say the same. -/
structure Agrees (log : CommandLog) : Prop where
  /-- The index names the commands of the entries, each of them once. -/
  commands : (log.index.map Prod.fst).Perm (log.entries.map (·.id))
  /-- The slot of a command is the one whose entry is of that command. -/
  slot : ∀ id slot, log.slot? id = some slot ↔ log.command? slot = some id
  /-- There is an entry in each slot that the index names. -/
  within : ∀ place ∈ log.index, place.2 < log.size
  /-- No two slots hold entries of one command. -/
  distinct : ∀ i j id, log.command? i = some id → log.command? j = some id → i = j

lemma Indexed.slot_inj (h : log.Indexed) {i j : Nat} (hi : log.command? i = some id)
    (hj : log.command? j = some id) : i = j := by
  rw [command?_eq] at hi hj
  obtain ⟨hlt, -⟩ := List.getElem?_eq_some_iff.mp hi
  exact (List.getElem?_inj hlt h.distinct).mp (hi.trans hj.symm)

lemma Indexed.command_of_slot (h : log.Indexed) {slot : Nat} (hslot : log.slot? id = some slot) :
    log.command? slot = some id := by
  obtain ⟨e, he, hid⟩ := h.entry_of_slot hslot
  rw [command?, he, Option.map_some, hid]

lemma Indexed.slot_eq_some (h : log.Indexed) {slot : Nat} :
    log.slot? id = some slot ↔ log.command? slot = some id := by
  refine ⟨h.command_of_slot, fun hheld => ?_⟩
  cases hplace : log.slot? id with
  | none =>
    rw [command?_eq] at hheld
    exact absurd (List.mem_of_getElem? hheld) (h.slot_eq_none.mp hplace)
  | some place => rw [h.slot_inj (h.command_of_slot hplace) hheld]

/-- The commands that have a slot are those of the entries. -/
lemma Indexed.slot_isSome (h : log.Indexed) :
    (log.slot? id).isSome ↔ id ∈ log.entries.map (·.id) := by
  rw [Option.isSome_iff_ne_none, ne_eq, h.slot_eq_none, not_not]

lemma Numbered.agrees (h : log.Numbered) : log.Agrees where
  commands := by
    rw [h.numbers, List.map_reverse, List.zipIdx_map_fst]
    exact List.reverse_perm _
  slot := fun _ _ => h.slot_eq_some
  within := by
    intro place hplace
    rw [h.numbers, List.mem_reverse, List.mem_zipIdx_iff_getElem?] at hplace
    obtain ⟨hlt, -⟩ := List.getElem?_eq_some_iff.mp hplace
    rwa [List.length_map] at hlt
  distinct := fun _ _ _ => h.slot_inj

/-! ### Access

What a log does at a slot, where it has to be one of the entries: a slot behind them has no result
here, while the log would go on without what it was about to do. -/

/-- Puts an entry over the one in a slot. -/
def replaceChecked (log : CommandLog) (slot : Nat) (entry : CommandEntry) : Option CommandLog :=
  if slot < log.entries.length then some (log.replace slot entry) else none

/-- Takes an entry in place of the command's earlier one. -/
def recordChecked (log : CommandLog) (entry : CommandEntry) : Option CommandLog :=
  match log.slot? entry.id with
  | some slot => log.replaceChecked slot entry
  | none => some (log.push entry)

/-- Merges an update into the entry of its command, or adds it. -/
def applyChecked (log : CommandLog) (update : CommandEntry) : Option CommandLog :=
  match log.slot? update.id with
  | some slot => do
    let current ← log.entries[slot]?
    log.replaceChecked slot (merge current update)
  | none => some (log.push update)

/-- The entry of a command, if the command is known. -/
def getChecked (log : CommandLog) (id : String) : Option (Option CommandEntry) :=
  match log.slot? id with
  | some slot => (log.entries[slot]?).map some
  | none => some none

lemma replaceChecked_eq {slot : Nat} {current : CommandEntry}
    (hcurrent : log.entries[slot]? = some current) (e : CommandEntry) :
    log.replaceChecked slot e = some (log.replace slot e) := by
  obtain ⟨hlt, -⟩ := List.getElem?_eq_some_iff.mp hcurrent
  exact if_pos hlt

lemma Indexed.recordChecked_eq (h : log.Indexed) (e : CommandEntry) :
    log.recordChecked e = some (log.record e) := by
  rw [recordChecked, CommandLog.record]
  cases hslot : log.slot? e.id with
  | none => rfl
  | some slot =>
    obtain ⟨current, hcurrent, -⟩ := h.entry_of_slot hslot
    exact replaceChecked_eq hcurrent e

lemma Indexed.applyChecked_eq (h : log.Indexed) (u : CommandEntry) :
    log.applyChecked u = some (log.apply u) := by
  rw [applyChecked]
  cases hslot : log.slot? u.id with
  | none => rw [apply_of_none hslot]
  | some slot =>
    obtain ⟨current, hcurrent, -⟩ := h.entry_of_slot hslot
    rw [apply_of_some hslot hcurrent]
    simp only [hcurrent]
    exact replaceChecked_eq hcurrent _

lemma Indexed.getChecked_eq (h : log.Indexed) (id : String) :
    log.getChecked id = some (log.get? id) := by
  rw [getChecked, get?]
  cases hslot : log.slot? id with
  | none => rfl
  | some slot =>
    obtain ⟨current, hcurrent, -⟩ := h.entry_of_slot hslot
    simp only [Option.bind_some, hcurrent, Option.map_some]

/-- Steps that have a result under an invariant, and keep it, have results one after another. -/
lemma foldlM_eq_some {σ α : Type} {P : σ → Prop} {step : σ → α → σ} {checked : σ → α → Option σ}
    (hresult : ∀ s a, P s → checked s a = some (step s a)) (hkeeps : ∀ s a, P s → P (step s a))
    {s : σ} (hs : P s) (as : List α) : as.foldlM checked s = some (as.foldl step s) := by
  induction as generalizing s with
  | nil => rfl
  | cons a as ih =>
    rw [List.foldlM_cons, hresult s a hs]
    exact ih (hkeeps s a hs)

/-! ### Lives -/

/-- A later log has each command in its earlier slot. -/
def KeptBy (log later : CommandLog) : Prop :=
  ∀ id slot, log.slot? id = some slot →
    later.slot? id = some slot ∧ later.command? slot = some id

/-- New commands come behind all others, so those that are there stay where they are. -/
lemma Indexed.keptBy (h : log.Indexed) (hlater : later.Indexed)
    (hids : log.entries.map (·.id) <+: later.entries.map (·.id)) : log.KeptBy later := by
  intro id slot hslot
  have hheld : (log.entries.map (·.id))[slot]? = some id := by
    rw [← command?_eq, h.command_of_slot hslot]
  have hstays : later.command? slot = some id := by
    obtain ⟨new, hnew⟩ := hids
    obtain ⟨hlt, -⟩ := List.getElem?_eq_some_iff.mp hheld
    rw [command?_eq, ← hnew, List.getElem?_append_left hlt, hheld]
  exact ⟨hlater.slot_eq_some.mpr hstays, hstays⟩

/-- Of all that a log gets, the first entries and updates settle the slots of their commands. -/
lemma keptBy_of_begins {known prior seen us : List CommandEntry}
    (hbegins : known ++ seen <+: prior ++ us) :
    (seen.foldl apply (ofHistory known)).KeptBy (us.foldl apply (ofHistory prior)) := by
  refine ((indexed_ofHistory known).applyAll seen).keptBy ((indexed_ofHistory prior).applyAll us) ?_
  obtain ⟨rest, hrest⟩ := hbegins
  have hids : (prior ++ us).map (·.id) = (known ++ seen).map (·.id) ++ rest.map (·.id) := by
    rw [← hrest]
    exact List.map_append
  rw [ids_applyAll, ids_applyAll, hids, List.eraseDups_append]
  exact List.prefix_append ..

/-- After any earlier history and any updates, the index of a log and its entries agree, and the
commands that have a slot are those that have come up. Every slot that was read or written on the
way was there, and so is the one that is read when a command is asked for. Each command is still in
the slot that it got first, be it from earlier history or from an update. -/
theorem slots_hold (prior us : List CommandEntry) :
    let log := us.foldl apply (ofHistory prior)
    log.Agrees
      ∧ (∀ id, (log.slot? id).isSome ↔ id ∈ (prior ++ us).map (·.id))
      ∧ prior.foldlM recordChecked empty = some (ofHistory prior)
      ∧ us.foldlM applyChecked (ofHistory prior) = some log
      ∧ (∀ id, log.getChecked id = some (log.get? id))
      ∧ (∀ known, known <+: prior → (ofHistory known).KeptBy log)
      ∧ (∀ seen, seen <+: us → (seen.foldl apply (ofHistory prior)).KeptBy log) := by
  intro log
  have hprior : (ofHistory prior).Numbered := numbered_ofHistory prior
  have hlog : log.Numbered := hprior.applyAll us
  refine ⟨hlog.agrees, fun id => ?_, ?_, ?_, hlog.getChecked_eq, fun known hknown => ?_,
    fun seen hseen => ?_⟩
  · rw [hlog.slot_isSome, ids_applyAll, List.mem_eraseDups]
  · exact foldlM_eq_some (fun _ e h => h.recordChecked_eq e) (fun _ e h => h.record e)
      indexed_empty prior
  · exact foldlM_eq_some (fun _ u h => h.applyChecked_eq u) (fun _ u h => h.apply u)
      hprior.toIndexed us
  · -- What the log has seen while it was made is also a beginning of all that it gets.
    have hbegins : known ++ [] <+: prior ++ us := by
      rw [List.append_nil]
      exact hknown.trans (List.prefix_append ..)
    exact keptBy_of_begins hbegins
  · exact keptBy_of_begins ((List.prefix_append_right_inj prior).mpr hseen)

/-- A command whose entry is overwritten and one whose entry is merged keep their slots. -/
theorem slots_hold_overwritten :
    let prior := [updateAt "open" 1 [], updateAt "ping" 2 [], updateAt "open" 3 []]
    let us := [updateAt "close" 3 [], updateAt "ping" 4 []]
    let log := us.foldl apply (ofHistory prior)
    prior.take 1 <+: prior ∧ us.take 1 <+: us
      ∧ log.slot? "open" = some 0 ∧ log.command? 0 = some "open"
      ∧ log.slot? "ping" = some 1 ∧ log.command? 1 = some "ping" := by
  intro prior us log
  have hprior : prior.take 1 <+: prior := List.take_prefix ..
  have hus : us.take 1 <+: us := List.take_prefix ..
  obtain ⟨-, -, -, -, -, hknown, hseen⟩ := slots_hold prior us
  obtain ⟨hopen, hopened⟩ := hknown _ hprior "open" 0 (by decide)
  obtain ⟨hping, hpinged⟩ := hseen _ hus "ping" 1 (by decide)
  exact ⟨hprior, hus, hopen, hopened, hping, hpinged⟩

end GroundLink.View.CommandLog
