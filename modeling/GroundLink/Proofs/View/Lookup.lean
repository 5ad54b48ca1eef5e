import GroundLink.Proofs.View.Arrival

/-!
# What a log answers about an attribute

A log is told of a command by the last entry of earlier history and then by updates. An attribute is
found exactly if one of them names it, and from the second on the value is the last that any of them
has for it, because a merge keeps the last item of each name.

An entry that nothing has been merged into is looked up as it is, from the front. If such an entry
has two values for a name, the log answers with the first, and an update without attributes makes it
answer with the last.
-/

namespace GroundLink.View

open Model

/-- The last value that some attributes have for a name. -/
def lastValue (name : String) (attributes : List Attribute) : Option Value :=
  (attributes.reverse.find? (·.name = name)).map (·.value)

lemma lastValue_gather (name : String) (xs : List Attribute) :
    lastValue name (gather Attribute.name xs) = lastValue name xs := by
  rw [lastValue, find?_reverse_gather, lastValue]

lemma lastValue_eq_none {name : String} {xs : List Attribute} :
    lastValue name xs = none ↔ name ∉ xs.map (·.name) := by
  simp [lastValue]

/-- An entry has a value for each name that it has attributes of. -/
lemma attribute?_eq_none {e : CommandEntry} {name : String} :
    e.attribute? name = none ↔ name ∉ e.attributes.map (·.name) := by
  simp [CommandEntry.attribute?]

/-- In an entry that names nothing twice the first value for a name is the last. -/
lemma attribute?_of_nodup {e : CommandEntry} (h : (e.attributes.map (·.name)).Nodup)
    (name : String) : e.attribute? name = lastValue name e.attributes := by
  rw [CommandEntry.attribute?, lastValue, ← find?_gather, gather_eq_self h]

/-- Of the values that entries bring one after another the last one stays. -/
lemma lastValue_foldl_merge (name : String) (e : CommandEntry) (us : List CommandEntry) :
    lastValue name (us.foldl merge e).attributes
      = lastValue name (e.attributes ++ us.flatMap (·.attributes)) := by
  induction us generalizing e with
  | nil => rw [List.foldl_nil, List.flatMap_nil, List.append_nil]
  | cons u us ih =>
    have hmerge : (merge e u).attributes
        = gather Attribute.name (e.attributes ++ u.attributes) := rfl
    rw [List.foldl_cons, ih, ← lastValue_gather, hmerge, gather_gather_append, lastValue_gather,
      List.flatMap_cons, List.append_assoc]

/-- An entry that something has been merged into shows the last value. -/
lemma attribute?_foldl_merge (name : String) (e u : CommandEntry) (us : List CommandEntry) :
    ((u :: us).foldl merge e).attribute? name
      = lastValue name (e.attributes ++ (u :: us).flatMap (·.attributes)) := by
  rw [← lastValue_foldl_merge, List.foldl_cons]
  exact attribute?_of_nodup (namesOnce_foldl (namesOnce_merge e u) us).attributes name

namespace CommandLog

/-- The value of an attribute of a command. -/
def attribute? (log : CommandLog) (id name : String) : Option Value :=
  (log.get? id).bind (·.attribute? name)

/-- What a log is told of a command: the last entry of earlier history, and then the updates. -/
def tellings (prior us : List CommandEntry) (id : String) : List CommandEntry :=
  (prior.filter (·.id = id)).getLast?.toList ++ us.filter (·.id = id)

/-- The attributes that a log is told of a command, one after another. -/
def told (prior us : List CommandEntry) (id : String) : List Attribute :=
  (tellings prior us id).flatMap (·.attributes)

variable {prior us : List CommandEntry} {id : String}

lemma get?_of_tellings_nil (h : tellings prior us id = []) :
    (us.foldl apply (ofHistory prior)).get? id = none := by
  obtain ⟨hearlier, hupdates⟩ := List.append_eq_nil_iff.mp h
  rw [(indexed_ofHistory prior).get?_applyAll, get?_ofHistory, hupdates,
    Option.toList_eq_nil_iff.mp hearlier, absorbAll_nil]

/-- The entry of a command is the first one told of it with all others merged into it. -/
lemma get?_of_tellings_cons {e : CommandEntry} {es : List CommandEntry}
    (h : tellings prior us id = e :: es) :
    (us.foldl apply (ofHistory prior)).get? id = some (es.foldl merge e) := by
  rw [(indexed_ofHistory prior).get?_applyAll, get?_ofHistory]
  rw [tellings] at h
  cases hearlier : (prior.filter (·.id = id)).getLast? with
  | none =>
    rw [hearlier, Option.toList_none, List.nil_append] at h
    rw [h, absorbAll_cons, absorb_none, absorbAll_some]
  | some earlier =>
    rw [hearlier, Option.toList_some, List.singleton_append] at h
    obtain ⟨rfl, rfl⟩ := List.cons.inj h
    exact absorbAll_some _ _

lemma attribute?_of_tellings_singleton {e : CommandEntry} (h : tellings prior us id = [e])
    (name : String) :
    (us.foldl apply (ofHistory prior)).attribute? id name = e.attribute? name := by
  rw [attribute?, get?_of_tellings_cons h, List.foldl_nil, Option.bind_some]

/-- A log that has been told of a command twice answers with the last value. -/
lemma attribute?_of_tellings_cons {e u : CommandEntry} {es : List CommandEntry}
    (h : tellings prior us id = e :: u :: es) (name : String) :
    (us.foldl apply (ofHistory prior)).attribute? id name = lastValue name (told prior us id) := by
  rw [attribute?, get?_of_tellings_cons h, Option.bind_some, attribute?_foldl_merge, told, h]
  rfl

/-- A log answers with the last value except where it has been told of the command once, and the
first value there for the name is not the last. -/
lemma attribute?_eq_lastValue_iff (prior us : List CommandEntry) (id name : String) :
    (us.foldl apply (ofHistory prior)).attribute? id name = lastValue name (told prior us id)
      ↔ ∀ e, tellings prior us id = [e] → e.attribute? name = lastValue name e.attributes := by
  cases htellings : tellings prior us id with
  | nil => simp [attribute?, get?_of_tellings_nil htellings, told, htellings, lastValue]
  | cons e es => cases es with
    | nil => simp [attribute?_of_tellings_singleton htellings, told, htellings]
    | cons u es => simp [attribute?_of_tellings_cons htellings]

lemma tellings_concat (prior us : List CommandEntry) (u : CommandEntry) (id : String) :
    tellings prior (us ++ [u]) id
      = tellings prior us id ++ if u.id = id then [u] else [] := by
  rw [tellings, List.filter_append, ← List.append_assoc, tellings]
  by_cases hid : u.id = id <;> simp [hid]

lemma told_concat (prior us : List CommandEntry) (u : CommandEntry) (id : String) :
    told prior (us ++ [u]) id = told prior us id ++ if u.id = id then u.attributes else [] := by
  rw [told, tellings_concat, List.flatMap_append, told]
  by_cases hid : u.id = id <;> simp [hid]

/-- An update without attributes makes a log answer with the last value. -/
lemma attribute?_apply_bare {u : CommandEntry} (hbare : u.attributes = []) (hid : u.id = id)
    (prior us : List CommandEntry) (name : String) :
    ((us.foldl apply (ofHistory prior)).apply u).attribute? id name
      = lastValue name (told prior us id) := by
  have htold : told prior (us ++ [u]) id = told prior us id := by
    rw [told_concat, hbare, ite_self, List.append_nil]
  have happly : (us.foldl apply (ofHistory prior)).apply u
      = (us ++ [u]).foldl apply (ofHistory prior) := by
    rw [List.foldl_append, List.foldl_cons, List.foldl_nil]
  rw [happly, ← htold, attribute?_eq_lastValue_iff]
  intro e he
  -- The update is the only one told of the command, so nothing has been told at all.
  rw [tellings_concat, if_pos hid, List.append_eq_singleton_iff] at he
  obtain ⟨-, he⟩ | ⟨-, he⟩ := he
  · obtain rfl := List.singleton_inj.mp he
    simp [CommandEntry.attribute?, lastValue, hbare]
  · cases he

/-- The answers about a command do not change with updates of others. -/
lemma attribute?_apply_other {u : CommandEntry} (hid : u.id ≠ id) (prior us : List CommandEntry)
    (name : String) : ((us.foldl apply (ofHistory prior)).apply u).attribute? id name
      = (us.foldl apply (ofHistory prior)).attribute? id name := by
  have hone := ((indexed_ofHistory prior).applyAll us).get?_applyAll [u] id
  rw [List.filter_cons_of_neg (by simpa using hid), List.filter_nil, absorbAll_nil] at hone
  rw [attribute?, attribute?]
  exact congrArg (Option.bind · _) hone

/-- A log finds an attribute exactly if it has been told of one with that name. The value is the
last that it has been told, unless all it has been told of the command is one entry whose first
value for the name is not its last; and an update of the command without attributes changes the
answer exactly then. -/
theorem attribute?_told (prior us : List CommandEntry) (id name : String) :
    let log := us.foldl apply (ofHistory prior)
    let told := told prior us id
    (log.attribute? id name = none ↔ name ∉ told.map (·.name))
      ∧ (log.attribute? id name = lastValue name told
        ↔ ∀ e, tellings prior us id = [e] → e.attribute? name = lastValue name e.attributes)
      ∧ ∀ u, u.attributes = [] →
        ((log.apply u).attribute? id name = log.attribute? id name
          ↔ (u.id = id → log.attribute? id name = lastValue name told)) := by
  intro log told
  refine ⟨?_, attribute?_eq_lastValue_iff prior us id name, fun u hbare => ?_⟩
  · by_cases hone : ∃ e, tellings prior us id = [e]
    · obtain ⟨e, he⟩ := hone
      have htold : told = e.attributes := by
        simp only [told, CommandLog.told, he, List.flatMap_singleton]
      rw [attribute?_of_tellings_singleton he, attribute?_eq_none, htold]
    · have hlast : log.attribute? id name = lastValue name told :=
        (attribute?_eq_lastValue_iff prior us id name).mpr fun e he => absurd ⟨e, he⟩ hone
      rw [hlast, lastValue_eq_none]
  · by_cases hid : u.id = id
    · rw [attribute?_apply_bare hbare hid, eq_comm]
      exact ⟨fun h _ => h, fun h => h hid⟩
    · exact iff_of_true (attribute?_apply_other hid prior us name) fun h => absurd h hid

/-- An entry with two values for a name is looked up by the first of them until an update without
attributes comes. -/
theorem attribute?_flips :
    let held := updateAt "open" 1 [⟨"state", .text "queued"⟩, ⟨"state", .text "held"⟩]
    let log := ofHistory [held]
    let bare := updateAt "open" 1 []
    log.attribute? "open" "state" = some (.text "queued")
      ∧ lastValue "state" (told [held] [] "open") = some (.text "held")
      ∧ (log.apply bare).attribute? "open" "state" = some (.text "held") := by
  intro held log bare
  exact ⟨rfl, rfl, rfl⟩

end CommandLog

end GroundLink.View
