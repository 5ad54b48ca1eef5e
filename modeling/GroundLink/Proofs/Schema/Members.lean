import GroundLink.Proofs.Json.Value
import GroundLink.Schema.Fields

/-!
# Records from members

A record is read from the members that its fields find under their keys, in whatever order they
stand.
-/

namespace GroundLink.Schema

open Json (Rereads)

variable {α β : Type}

/-! ### Values -/

/-- The items of a list are read one by one. -/
lemma list_map {reader : Reader α} {f : α → Json} {as : List α}
    (h : ∀ a ∈ as, reader (f a) = .ok a) : list reader (.array (as.map f)) = .ok as := by
  change (as.map f).mapM reader = .ok as
  induction as with
  | nil => rfl
  | cons a as ih =>
    rw [List.map_cons, List.mapM_cons, h a (.head _), ih fun b hb => h b (.tail _ hb)]
    rfl

lemma rereads_option {depth : Nat} {f : α → Json} (h : ∀ a, Rereads depth (f a) (f a))
    (o : Option α) : Option.Rel (Rereads depth) (o.map f) (o.map f) := by
  cases o with
  | none => exact .none
  | some a => exact .some (h a)

/-! ### Integers -/

lemma rereads_nat {n : Nat} (h : n < UInt64.size) (depth : Nat) :
    Rereads depth (.nat n) (.nat n) := by
  have hlow : Int64.minValue.toInt ≤ 0 := by decide
  exact .int (Int.le_trans hlow (Int.natCast_nonneg _)) (Int.ofNat_lt.mpr h)

lemma rereads_uint64 (n : UInt64) (depth : Nat) : Rereads depth (.nat n.toNat) (.nat n.toNat) :=
  rereads_nat n.toNat_lt_size depth

lemma rereads_uint32 (n : UInt32) (depth : Nat) : Rereads depth (.nat n.toNat) (.nat n.toNat) :=
  rereads_nat (Nat.lt_trans n.toNat_lt_size (by decide)) depth

lemma rereads_int64 (n : Int64) (depth : Nat) : Rereads depth (.int n.toInt) (.int n.toInt) := by
  have hsize : (2 : Int) ^ 63 < UInt64.size := by decide
  exact .int n.minValue_le_toInt (Int.lt_trans n.toInt_lt hsize)

lemma rereads_int32 (n : Int32) (depth : Nat) : Rereads depth (.int n.toInt) (.int n.toInt) := by
  have hlow : Int64.minValue.toInt ≤ Int32.minValue.toInt := by decide
  have hsize : (2 : Int) ^ 31 < UInt64.size := by decide
  exact .int (Int.le_trans hlow n.minValue_le_toInt) (Int.lt_trans n.toInt_lt hsize)

lemma int_of_mem {low high n : Int} (h : low ≤ n ∧ n ≤ high) (expected : String) :
    int low high expected (Json.int n) = .ok n :=
  if_pos h

lemma lenient_of_mem {below above : Nat} {n : Int} (h : -below ≤ n ∧ n ≤ above) :
    lenient below above (Json.int n) = .ok n :=
  if_pos h

lemma le_maxSize {n size : Nat} (h : n < size) : (0 : Int) ≤ n ∧ (n : Int) ≤ size - 1 := by omega

lemma uint64_nat (n : UInt64) : uint64 (.nat n.toNat) = .ok n := by
  have hint := int_of_mem (le_maxSize n.toNat_lt_size) "u64"
  change (int _ _ _ (Json.int n.toNat)).map _ = _
  rw [hint, Except.map, Int.toNat_natCast, UInt64.ofNat_toNat]

lemma uint32_nat (n : UInt32) : uint32 (.nat n.toNat) = .ok n := by
  have hint := int_of_mem (le_maxSize n.toNat_lt_size) "u32"
  change (int _ _ _ (Json.int n.toNat)).map _ = _
  rw [hint, Except.map, Int.toNat_natCast, UInt32.ofNat_toNat]

lemma int64_int (n : Int64) : int64 (.int n.toInt) = .ok n := by
  rw [int64, int_of_mem ⟨n.minValue_le_toInt, n.toInt_le⟩, Except.map, Int64.ofInt_toInt]

lemma int32_int (n : Int32) : int32 (.int n.toInt) = .ok n := by
  rw [int32, int_of_mem ⟨n.minValue_le_toInt, n.toInt_le⟩, Except.map, Int32.ofInt_toInt]

lemma lenientUInt64_nat (n : UInt64) : lenientUInt64 (.nat n.toNat) = .ok n := by
  have hbounds := le_maxSize n.toNat_lt_size
  change (lenient _ _ (Json.int n.toNat)).map _ = _
  rw [lenient_of_mem (by exact hbounds), Except.map, Int.toNat_natCast, UInt64.ofNat_toNat]

lemma lenientInt64_int (n : Int64) : lenientInt64 (.int n.toInt) = .ok n := by
  have hlow : -(Int64.minValue.toInt.natAbs : Int) = Int64.minValue.toInt := by decide
  have hhigh : (Int64.maxValue.toInt.natAbs : Int) = Int64.maxValue.toInt := by decide
  have hbounds := And.intro n.minValue_le_toInt n.toInt_le
  rw [← hlow, ← hhigh] at hbounds
  rw [lenientInt64, lenient_of_mem hbounds, Except.map, Int64.ofInt_toInt]

/-! ### Fields -/

namespace Fields

/-- Fields make a record of some members, wherever these are found among others. -/
def Finds (fields : Fields α) (ms : List (String × Option Json)) (a : α) : Prop :=
  ∀ all, (∀ m ∈ ms, Json.lookup m.1 all = m.2) → fields.ofMembers all = .ok a

lemma finds_pure (a : α) : Finds (pure a) [] a := fun _ _ => rfl

lemma Finds.seq {f : Fields (α → β)} {x : Fields α} {ms ns : List (String × Option Json)}
    {g : α → β} {a : α} (hf : f.Finds ms g) (hx : x.Finds ns a) :
    (f <*> x).Finds (ms ++ ns) (g a) := by
  intro all hall
  have hg := hf all fun m hm => hall m (List.mem_append_left _ hm)
  have ha := hx all fun m hm => hall m (List.mem_append_right _ hm)
  change (Fields.seq f x).ofMembers all = .ok (g a)
  simp only [Fields.seq, hg, ha]

lemma Finds.map {x : Fields α} {ms : List (String × Option Json)} {a : α} (hx : x.Finds ms a)
    (g : α → β) : (g <$> x).Finds ms (g a) :=
  (finds_pure g).seq hx

/-- A field is made of the member under its key. -/
lemma finds_field (key : String) {reader : Reader α} {absent unlisted : Option α} {j : Json} {a : α}
    (hread : reader j = .ok a) : (field key reader absent unlisted).Finds [(key, some j)] a := by
  intro all hall
  have hlookup : Json.lookup key all = some j := hall (key, some j) (.head _)
  simp only [field, hlookup, hread]

lemma finds_absent (key : String) (reader : Reader α) (a : α) (unlisted : Option α) :
    (field key reader (some a) unlisted).Finds [(key, none)] a := by
  intro all hall
  have hlookup : Json.lookup key all = none := hall (key, none) (.head _)
  simp only [field, hlookup]

lemma finds_required (key : String) {reader : Reader α} {j : Json} {a : α}
    (hread : reader j = .ok a) : (required key reader).Finds [(key, some j)] a :=
  finds_field key hread

/-- A field that may be left out is left out, or is not null. -/
lemma finds_optional (key : String) (unlisted : Option (Option α)) {reader : Reader α}
    {f : α → Json}
    (hread : ∀ a, optional reader (f a) = .ok (some a)) (o : Option α) :
    (field key (optional reader) (some none) unlisted).Finds [(key, o.map f)] o := by
  cases o with
  | none => exact finds_absent key _ none unlisted
  | some a => exact finds_field key (hread a)

lemma finds_maybe (key : String) {reader : Reader α} {f : α → Json}
    (hread : ∀ a, optional reader (f a) = .ok (some a)) (o : Option α) :
    (maybe key reader).Finds [(key, o.map f)] o :=
  finds_optional key (some none) hread o

lemma finds_nullable (key : String) {reader : Reader α} {f : α → Json}
    (hread : ∀ a, optional reader (f a) = .ok (some a)) (o : Option α) :
    (nullable key reader).Finds [(key, o.map f)] o :=
  finds_optional key none hread o

lemma finds_string (key s : String) : (required key string).Finds [(key, some (.string s))] s :=
  finds_required key rfl

lemma finds_maybeString (key : String) (o : Option String) :
    (maybe key string).Finds [(key, o.map .string)] o :=
  finds_maybe key (fun _ => rfl) o

lemma finds_maybeBool (key : String) (o : Option Bool) :
    (maybe key bool).Finds [(key, o.map .bool)] o :=
  finds_maybe key (fun _ => rfl) o

/-- A record is read from its members in the order of their keys. -/
lemma Finds.read {fields : Fields α} {ms : List (String × Option Json)} {a : α}
    (h : fields.Finds ms a) (hkeys : (ms.map (·.1)).Nodup) (name : String) (origin : Origin) :
    fields.read name origin (.object (Json.reread ms)) = .ok a := by
  have hmembers := h (Json.reread ms) fun m hm => Json.lookup_reread hkeys hm
  change (fields.ofMembers (Json.reread ms)).mapError Failure.error = .ok a
  rw [hmembers]
  rfl

end Fields

end GroundLink.Schema
