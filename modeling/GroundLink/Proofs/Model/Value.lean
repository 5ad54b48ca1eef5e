import GroundLink.Model.Value
import GroundLink.Proofs.Schema.Recovery

/-!
# Telemetry values

A value is read from the content that stands under the key of its kind, and recovered from it. The
plain key stands for the key of any kind but one: under it, the members of an aggregate go
unnoticed.
-/

namespace GroundLink.Model

open Json Schema

variable {depth : Nat} {kind : ValueKind} {ms : List (String × Json)}

namespace ValueKind

lemma read_name (kind : ValueKind) : read (.string kind.name) = .ok kind := by
  cases kind <;> rfl

lemma alias?_eq (h : kind ≠ .aggregate) : kind.alias? = some "value" := by
  cases kind with
  | aggregate => exact absurd rfl h
  | _ => rfl

/-- Reads what stands for the content of a kind, if anything does. -/
def contentOf (kind : ValueKind) : Option Json → Except ReadError Value
  | some j => kind.content j
  | none => match kind.vacant? with
    | some v => .ok v
    | none => .error (.missing kind.key)

/-! ### Recovery -/

/-- A value of a kind is recovered from its content. -/
def Recovers (depth : Nat) (kind : ValueKind) (v : Value) : Prop :=
  v.kind = kind ∧ ((∀ j ∈ v.content?, FloatFree j) →
    ∃ w, Option.Rel (Rereads depth) v.content? w ∧ kind.contentOf w = .ok v)

lemma recovers_of_faithful {α : Type} {reader : Reader α} {json : α → Json} {value : α → Value}
    (h : reader.Faithful depth json) (hcontent : ∀ j, kind.content j = (reader j).map value)
    (hkind : ∀ a, (value a).kind = kind) (hjson : ∀ a, (value a).content? = some (json a)) :
    kind.content.Gives (Parsed depth) (kind.Recovers depth) := by
  intro j v hj hv
  obtain ⟨a, ha, rfl⟩ := map_eq_ok.mp ((hcontent j).symm.trans hv)
  refine ⟨hkind a, fun hfree => ?_⟩
  rw [hjson] at hfree ⊢
  obtain ⟨w, hw, hread⟩ := h j a hj ha (hfree _ rfl)
  refine ⟨some w, .some hw, ?_⟩
  change kind.content w = _
  rw [hcontent, hread]
  rfl

lemma single_faithful : single.Faithful depth fun x => .number (.single x) :=
  fun _ _ _ _ hfree => nomatch hfree

lemma double_faithful : Schema.double.Faithful depth fun x => .number (.float x) :=
  fun _ _ _ _ hfree => nomatch hfree

lemma aggregate_recovers :
    ValueKind.aggregate.content.Gives (Parsed depth) (ValueKind.aggregate.Recovers depth) := by
  intro j v hj hv
  obtain ⟨o, ho, rfl⟩ := map_eq_ok.mp hv
  refine ⟨rfl, fun hfree => ?_⟩
  cases o with
  | none => exact ⟨none, .none, rfl⟩
  | some members =>
    obtain ⟨hparsed, hread⟩ := optional_any_gives j _ hj ho members rfl
    refine ⟨some members, .some (hparsed.rereads (hfree members rfl)), ?_⟩
    change (optional any members).map _ = _
    rw [hread]
    rfl

lemma content_recovers (kind : ValueKind) :
    kind.content.Gives (Parsed depth) (kind.Recovers depth) := by
  cases kind with
  | float => exact recovers_of_faithful single_faithful (fun _ => rfl) (fun _ => rfl) fun _ => rfl
  | double => exact recovers_of_faithful double_faithful (fun _ => rfl) (fun _ => rfl) fun _ => rfl
  | sint32 => exact recovers_of_faithful int32_faithful (fun _ => rfl) (fun _ => rfl) fun _ => rfl
  | uint32 => exact recovers_of_faithful uint32_faithful (fun _ => rfl) (fun _ => rfl) fun _ => rfl
  | sint64 =>
    exact recovers_of_faithful lenientInt64_faithful (fun _ => rfl) (fun _ => rfl) fun _ => rfl
  | uint64 =>
    exact recovers_of_faithful lenientUInt64_faithful (fun _ => rfl) (fun _ => rfl) fun _ => rfl
  | binary => exact recovers_of_faithful bytes_faithful (fun _ => rfl) (fun _ => rfl) fun _ => rfl
  | text => exact recovers_of_faithful string_faithful (fun _ => rfl) (fun _ => rfl) fun _ => rfl
  | timestamp =>
    exact recovers_of_faithful instant_faithful (fun _ => rfl) (fun _ => rfl) fun _ => rfl
  | boolean => exact recovers_of_faithful bool_faithful (fun _ => rfl) (fun _ => rfl) fun _ => rfl
  | enumerated =>
    exact recovers_of_faithful string_faithful (fun _ => rfl) (fun _ => rfl) fun _ => rfl
  | aggregate => exact aggregate_recovers

end ValueKind

namespace Value

/-! ### Members -/

lemma nodup_keys (kind : ValueKind) : ["type", kind.key, "value"].Nodup := by
  cases kind <;> decide

/-- A value is read from the members of its kind. -/
lemma read_members (htype : lookup "type" ms = some (.string kind.name)) :
    read (.object ms) = readMembers kind ms := by
  simp only [read, htype, kind.read_name]
  rfl

/-- The content of a kind is read where nothing stands under the plain key. -/
lemma readMembers_own (hplain : lookup "value" ms = none) :
    readMembers kind ms = kind.contentOf (lookup kind.key ms) := by
  have hother : kind.alias?.bind (lookup · ms) = none := by
    cases kind <;> first | exact hplain | rfl
  rw [readMembers]
  cases lookup kind.key ms with
  | some j => simp only [hother]; rfl
  | none => simp only [hother]; rfl

/-- The content of a kind is read where nothing stands under its own key. -/
lemma readMembers_plain (hown : lookup kind.key ms = none) :
    readMembers kind ms = kind.contentOf (kind.alias?.bind (lookup · ms)) := by
  rw [readMembers, hown]
  cases kind.alias?.bind (lookup · ms) <;> rfl

/-! ### Spellings -/

/-- The content of a kind is read as it is by itself, under the key of the kind and under the plain
key. But whatever stands under the plain key, an aggregate is read as one without members; so the
two keys agree on every content of every kind, save on the members of an aggregate. -/
theorem read_spellings (kind : ValueKind) (b : Json) (ms : List (String × Json))
    (htype : lookup "type" ms = some (.string kind.name))
    (hown : lookup kind.key ms = none) (hplain : lookup "value" ms = none) :
    read (.object (insert kind.key b ms)) = kind.content b
      ∧ read (.object (insert "value" b ms))
        = (if kind = .aggregate then .ok (.aggregate none) else kind.content b)
      ∧ (read (.object (insert "value" b ms)) = read (.object (insert kind.key b ms))
        ↔ kind ≠ .aggregate ∨ b = .null) := by
  obtain ⟨htypes, hvalue⟩ := List.nodup_cons.mp (nodup_keys kind)
  have hkey : kind.key ≠ "value" := by simpa using hvalue
  rw [List.mem_cons, not_or, List.mem_singleton] at htypes
  have hread : read (.object (insert kind.key b ms)) = kind.content b := by
    rw [read_members ((lookup_insert_of_ne (Ne.symm htypes.1) b ms).trans htype),
      readMembers_own ((lookup_insert_of_ne hkey b ms).trans hplain), lookup_insert_self]
    rfl
  have hplainly : read (.object (insert "value" b ms))
      = kind.contentOf (kind.alias?.bind (lookup · (insert "value" b ms))) := by
    rw [read_members ((lookup_insert_of_ne (Ne.symm htypes.2) b ms).trans htype),
      readMembers_plain ((lookup_insert_of_ne hkey.symm b ms).trans hown)]
  rw [hread, hplainly]
  by_cases hkind : kind = .aggregate
  · subst hkind
    have hdropped : ValueKind.aggregate.contentOf none = .ok (.aggregate none) := rfl
    refine ⟨rfl, hdropped, ?_⟩
    rw [or_iff_right (not_not_intro rfl)]
    cases b with
    | null => exact iff_of_true rfl rfl
    | _ => exact iff_of_false nofun nofun
  · rw [ValueKind.alias?_eq hkind, Option.bind_some, lookup_insert_self, if_neg hkind]
    exact ⟨rfl, rfl, iff_of_true rfl (.inl hkind)⟩

theorem read_spellings_aggregate :
    read (.object (insert "value" (.array [.int 1]) [("type", .string "AGGREGATE")]))
        = .ok (.aggregate none)
      ∧ read (.object (insert "aggregateValue" (.array [.int 1]) [("type", .string "AGGREGATE")]))
        = .ok (.aggregate (some (.array [.int 1])))
      ∧ read (.object (insert "value" (.string " 7 ") [("type", .string "SINT64")]))
        = read (.object (insert "sint64Value" (.string " 7 ") [("type", .string "SINT64")])) := by
  have hmembers := read_spellings .aggregate (.array [.int 1]) [("type", .string "AGGREGATE")]
    rfl rfl rfl
  have hnumber := read_spellings .sint64 (.string " 7 ") [("type", .string "SINT64")] rfl rfl rfl
  exact ⟨hmembers.2.1, hmembers.1, hnumber.2.2.mpr (.inl nofun)⟩

/-- The plain key does not do for an aggregate: its members are dropped without a fault. -/
theorem aggregate_dropped :
    ¬ ∀ (kind : ValueKind) (b : Json),
      (∃ e e', read (.object [("type", .string kind.name), ("value", b)]) = .error e
        ∧ read (.object [("type", .string kind.name), (kind.key, b)]) = .error e')
      ∨ ∃ v, read (.object [("type", .string kind.name), ("value", b)]) = .ok v
        ∧ read (.object [("type", .string kind.name), (kind.key, b)]) = .ok v := by
  intro h
  rcases h .aggregate (.object [("a", .int 1)]) with ⟨e, _, hdropped, -⟩ | ⟨v, hdropped, hread⟩
  · cases hdropped
  · cases hdropped
    cases hread

/-- A value is read from what its content is read as. -/
lemma rereads_json {v : Value} {w : Option Json} (hw : Option.Rel (Rereads depth) v.content? w) :
    ∃ all, Rereads (depth + 1) v.json all ∧ read all = v.kind.contentOf w := by
  let ms : List (String × Option Json) :=
    [("type", some (.string v.kind.name)), (v.kind.key, w), ("value", none)]
  have hkeys : (ms.map (·.1)).Nodup := nodup_keys v.kind
  have htype : lookup "type" (reread ms) = some (.string v.kind.name) :=
    lookup_reread hkeys (.head _)
  have hown : lookup v.kind.key (reread ms) = w := lookup_reread hkeys (.tail _ (.head _))
  have hplain : lookup "value" (reread ms) = none :=
    lookup_reread hkeys (.tail _ (.tail _ (.head _)))
  have hreads : Rereads (depth + 1) (record [("type", some (.string v.kind.name)),
      (v.kind.key, v.content?), ("value", none)]) (.object (reread ms)) :=
    .record (.cons ⟨rfl, .some (.string _)⟩ (.cons ⟨rfl, hw⟩ (.cons ⟨rfl, .none⟩ .nil)))
  refine ⟨.object (reread ms), hreads, ?_⟩
  rw [read_members htype, readMembers_own hplain, hown]

/-- Whatever is given from the content of a kind is a value that is recovered. -/
lemma recovers_of_content {v : Value} (h : kind.Recovers depth v) :
    Schema.Recovers (depth + 1) read json v := by
  obtain ⟨rfl, h⟩ := h
  intro hfree
  rw [json, floatFree_record] at hfree
  obtain ⟨w, hw, hcontent⟩ := h fun j hj => hfree _ (.tail _ (.head _)) j hj
  obtain ⟨all, hall, hread⟩ := rereads_json hw
  exact ⟨all, hall, hread.trans hcontent⟩

/-! ### What is read -/

section Gives

variable {Q : Json → Prop} {P : ValueKind → Value → Prop}
  (hcontent : ∀ kind : ValueKind, kind.content.Gives Q (P kind))
  (hvacant : ∀ (kind : ValueKind) v, kind.vacant? = some v → P kind v)

include hcontent hvacant

lemma readMembers_gives {v : Value} (hms : ∀ m ∈ ms, Q m.2)
    (hv : readMembers kind ms = .ok v) : P kind v := by
  have hfound : ∀ key j, lookup key ms = some j → kind.content j = .ok v → P kind v :=
    fun key j hj => hcontent kind j v (hms _ (mem_of_lookup hj))
  simp only [readMembers] at hv
  split at hv
  case h_1 j hown _ => exact hfound _ j hown hv
  case h_2 j _ hother =>
    obtain ⟨key, -, hj⟩ := Option.bind_eq_some_iff.mp hother
    exact hfound key j hj hv
  case h_3 =>
    obtain ⟨_, -, hv⟩ := bind_eq_ok.mp hv
    cases hv
  case h_4 =>
    split at hv
    case h_1 v' hnone =>
      cases hv
      exact hvacant kind v hnone
    case h_2 => cases hv

lemma readItems_gives {items : List Json} {v : Value} (hitems : ∀ x ∈ items, Q x)
    (hv : readItems kind items = .ok v) : P kind v := by
  cases items with
  | nil =>
    simp only [readItems] at hv
    split at hv
    case h_1 v' hnone =>
      cases hv
      exact hvacant kind v hnone
    case h_2 => cases hv
  | cons j rest =>
    obtain ⟨v', hread, hv⟩ := bind_eq_ok.mp hv
    split at hv
    case isTrue =>
      cases hv
      exact hcontent kind j v (hitems j (.head _)) hread
    case isFalse => cases hv

/-- A value has whatever the contents of its kind give. -/
theorem read_gives {Q' : Json → Prop} (hinside : Encloses Q' Q) :
    read.Gives Q' fun v => ∃ kind, P kind v := by
  intro j v hj hv
  cases j with
  | object ms =>
    simp only [read] at hv
    split at hv
    case h_1 => cases hv
    case h_2 tag =>
      obtain ⟨kind, -, hv⟩ := bind_eq_ok.mp hv
      exact ⟨kind, readMembers_gives hcontent hvacant (hinside.members ms hj) hv⟩
  | array items =>
    cases items with
    | nil => cases hv
    | cons tag items =>
      obtain ⟨kind, -, hv⟩ := bind_eq_ok.mp hv
      have hitems := hinside.items _ hj
      exact ⟨kind, readItems_gives hcontent hvacant (fun x hx => hitems x (.tail _ hx)) hv⟩
  | _ => cases hv

end Gives

lemma vacant_recovers (kind : ValueKind) (v : Value) (h : kind.vacant? = some v) :
    kind.Recovers depth v := by
  cases kind with
  | aggregate =>
    cases h
    exact ⟨rfl, fun _ => ⟨none, .none, rfl⟩⟩
  | _ => cases h

/-- A value that has been read is recovered. -/
theorem read_faithful (depth : Nat) : read.Faithful (depth + 1) json :=
  (read_gives ValueKind.content_recovers vacant_recovers parsed_encloses).imp
    fun _ ⟨_, h⟩ => recovers_of_content h

end Value

end GroundLink.Model
