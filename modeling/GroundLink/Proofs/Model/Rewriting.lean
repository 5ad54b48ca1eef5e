import GroundLink.Proofs.Model.Value

/-!
# What a value is written as

A value that has been read is written as something from which a value of its kind is read again.
The only exception is a number that is too large for 32 bits: where one of 32 bits is expected it is
read as infinity, infinity is written as null, and null is no number. Numbers of 64 bits never come
to that, since no text with a number too large for them is read at all.
-/

namespace GroundLink

/-- What a list or an object is made of. -/
def Json.parts : Json → List Json
  | .array xs => xs
  | .object ms => ms.map (·.2)
  | _ => []

lemma Json.encloses_parts (j : Json) : Schema.Encloses (· = j) (· ∈ j.parts) where
  items := by
    rintro xs rfl x hx
    exact hx
  members := by
    rintro ms rfl m hm
    exact List.mem_map_of_mem hm

namespace Model

open Decimal Json Schema

variable {depth : Nat} {kind : ValueKind}

/-! ### Numbers -/

lemma natAbs_lt_size {n : Int} (hlow : Int64.minValue.toInt ≤ n) (hhigh : n < UInt64.size) :
    n.natAbs < UInt64.size := by
  have hmin : Int64.minValue.toInt = -2 ^ 63 := rfl
  have hsize : UInt64.size = 2 ^ 64 := rfl
  omega

/-- A number of 64 bits that has been read is finite. -/
lemma double_isSome : Schema.double.Gives (Parsed depth) fun x => (ofFloat x).2.isSome := by
  intro j x hj hx
  cases hj with
  | int hlow hhigh =>
    cases hx
    exact ofFloat_nearest_isSome _ (natAbs_lt_size hlow hhigh)
  | float hfinite =>
    cases hx
    exact hfinite
  | _ => cases hx

/-- A number is read as a finite one of 32 bits if and only if it is an integer of 64 bits or is too
small to be rounded to the next power of two. -/
theorem single_isSome_iff {j : Json} {x : Float32} (hj : Parsed depth j)
    (hx : Schema.single j = .ok x) :
    (ofFloat32 x).2.isSome
      ↔ ∀ y, j = .number (.float y) →
        ∃ m, (ofFloat y).2 = some m ∧ m.value < 2 ^ 128 - 2 ^ 103 := by
  cases hj with
  | int hlow hhigh =>
    cases hx
    exact iff_of_true (float32OfInt_isSome (natAbs_lt_size hlow hhigh)) nofun
  | float hfinite =>
    cases hx
    rw [narrow_isSome_iff, limit_single]
    exact ⟨fun h y heq => by cases heq; exact h, fun h => h _ rfl⟩
  | _ => cases hx

/-! ### Contents -/

namespace ValueKind

/-- A value of a kind is written as something from which a value of the kind is read, unless it is
a number of 32 bits that is not finite. -/
def Rewrites (depth : Nat) (kind : ValueKind) (v : Value) : Prop :=
  v.kind = kind ∧ ((∀ x, v = .float x → (ofFloat32 x).2.isSome) →
    ∃ w v', Option.Rel (Rereads depth) v.content? w ∧ kind.contentOf w = .ok v' ∧ v'.kind = kind)

/-- Only numbers and members may hold a floating-point number. -/
lemma floatFree_content {v : Value} (hfloat : v.kind ≠ .float) (hdouble : v.kind ≠ .double)
    (haggregate : v.kind ≠ .aggregate) : ∀ j ∈ v.content?, FloatFree j := by
  intro j hj
  cases v with
  | float => exact absurd rfl hfloat
  | double => exact absurd rfl hdouble
  | aggregate => exact absurd rfl haggregate
  | sint32 | uint32 | sint64 | uint64 => cases hj; exact .int _
  | boolean => cases hj; exact .bool _
  | binary | text | timestamp | enumerated => cases hj; exact .string _

lemma rewrites_of_recovers {v : Value} (h : kind.Recovers depth v)
    (hfree : ∀ j ∈ v.content?, FloatFree j) : kind.Rewrites depth v := by
  obtain ⟨hkind, h⟩ := h
  obtain ⟨w, hw, hread⟩ := h hfree
  exact ⟨hkind, fun _ => ⟨w, v, hw, hread, hkind⟩⟩

lemma float_rewrites : float.content.Gives (Parsed depth) (float.Rewrites depth) := by
  intro j v hj hv
  obtain ⟨x, -, rfl⟩ := map_eq_ok.mp hv
  refine ⟨rfl, fun hfinite => ?_⟩
  obtain ⟨y, hy⟩ := rereads_single (hfinite x rfl) depth
  exact ⟨_, _, .some hy, rfl, rfl⟩

lemma double_rewrites : double.content.Gives (Parsed depth) (double.Rewrites depth) := by
  intro j v hj hv
  obtain ⟨x, hx, rfl⟩ := map_eq_ok.mp hv
  obtain ⟨y, hy⟩ := rereads_float (double_isSome j x hj hx) depth
  exact ⟨rfl, fun _ => ⟨_, _, .some hy, rfl, rfl⟩⟩

lemma aggregate_rewrites : aggregate.content.Gives (Parsed depth) (aggregate.Rewrites depth) := by
  intro j v hj hv
  obtain ⟨o, ho, rfl⟩ := map_eq_ok.mp hv
  refine ⟨rfl, fun _ => ?_⟩
  cases o with
  | none => exact ⟨none, _, .none, rfl, rfl⟩
  | some members =>
    obtain ⟨hparsed, -⟩ := optional_any_gives j _ hj ho members rfl
    obtain ⟨w, hw⟩ := hparsed.rewritten
    -- the members may come back as null, which is taken for none
    cases w <;> exact ⟨_, _, .some hw, rfl, rfl⟩

lemma content_rewrites (kind : ValueKind) :
    kind.content.Gives (Parsed depth) (kind.Rewrites depth) := by
  have hfree : kind ≠ .float → kind ≠ .double → kind ≠ .aggregate →
      kind.content.Gives (Parsed depth) (kind.Rewrites depth) := by
    intro hfloat hdouble haggregate j v hj hv
    have h := content_recovers kind j v hj hv
    obtain rfl := h.1
    exact rewrites_of_recovers h (floatFree_content hfloat hdouble haggregate)
  cases kind with
  | float => exact float_rewrites
  | double => exact double_rewrites
  | aggregate => exact aggregate_rewrites
  | _ => exact hfree nofun nofun nofun

lemma vacant_rewrites (kind : ValueKind) (v : Value) (h : kind.vacant? = some v) :
    kind.Rewrites depth v := by
  cases kind with
  | aggregate =>
    cases h
    exact ⟨rfl, fun _ => ⟨none, _, .none, rfl, rfl⟩⟩
  | _ => cases h

lemma content_single {Q : Json → Prop} (kind : ValueKind) :
    kind.content.Gives Q fun v => ∀ x, v = .float x → ∃ b, Q b ∧ Schema.single b = .ok x := by
  rintro b v hb hv x rfl
  cases kind with
  | float =>
    obtain ⟨y, hy, heq⟩ := map_eq_ok.mp hv
    cases heq
    exact ⟨b, hb, hy⟩
  | _ =>
    obtain ⟨_, -, heq⟩ := map_eq_ok.mp hv
    cases heq

lemma not_vacant_single (kind : ValueKind) (x : Float32) : kind.vacant? ≠ some (.float x) := by
  cases kind <;> exact nofun

end ValueKind

/-! ### Values -/

namespace Value

/-- A number of 32 bits is read from a part of what is read, and is infinite if that is a number
that is too large. -/
lemma single_of_read {j : Json} {x : Float32} (hj : Parsed (depth + 1) j)
    (hread : read j = .ok (.float x)) :
    ∃ b ∈ j.parts, Schema.single b = .ok x ∧ ((ofFloat32 x).2.isSome
      ↔ ∀ y, b = .number (.float y) →
        ∃ m, (ofFloat y).2 = some m ∧ m.value < 2 ^ 128 - 2 ^ 103) := by
  obtain ⟨-, h⟩ := read_gives ValueKind.content_single
    (fun kind v hv x hx => absurd (hv.trans (congrArg some hx)) (kind.not_vacant_single x))
    (j.encloses_parts.and parsed_encloses) j _ ⟨rfl, hj⟩ hread
  obtain ⟨b, ⟨hmem, hb⟩, hx⟩ := h x rfl
  exact ⟨b, hmem, hx, single_isSome_iff hb hx⟩

/-- No value is read from what a number of 32 bits is written as that is not finite. -/
lemma float_lost {x : Float32} (hx : (ofFloat32 x).2 = none) {w : Json} {v : Value}
    (hw : parse (Value.float x).json.text = .ok w) : read w ≠ .ok v := by
  have hnull : Option.Rel (Rereads 126) (Value.float x).content? (some .null) :=
    .some (rereads_single_null hx _)
  obtain ⟨all, hall, hread⟩ := rereads_json hnull
  cases hw.symm.trans hall.parse
  rw [hread]
  exact nofun

/-- What has been computed about the value that a text is read as. -/
lemma exists_read {text : String} {p : Value → Bool}
    (h : ((parse text).toOption.bind fun j => (read j).toOption).any p = true) :
    ∃ j v, parse text = .ok j ∧ read j = .ok v ∧ p v = true := by
  obtain ⟨v, hv, hp⟩ := (Option.any_eq_true ..).mp h
  obtain ⟨j, hj, hread⟩ := Option.bind_eq_some_iff.mp hv
  exact ⟨j, v, toOption_eq_some.mp hj, toOption_eq_some.mp hread, hp⟩

/-- A value that is the greatest number of 64 bits. -/
def greatestText : String :=
  "\x7b\"type\":\"DOUBLE\",\"doubleValue\":1.7976931348623157e308\x7d"

/-- A value that is too large for the number of 32 bits that it ought to be. -/
def infiniteText : String :=
  "\x7b\"type\":\"FLOAT\",\"floatValue\":1e39\x7d"

/-- From what a value is written as that has been read, a value of its kind is read again, if and
only if the value is not a number of 32 bits that has been read as infinity. It has been read so if
and only if its content is a number, of either sign, from 2 ^ 128 - 2 ^ 103 on: half a unit in the
last place beyond the greatest number of 32 bits. -/
theorem rewritten_iff {text : String} {j : Json} {v : Value} (hparse : parse text = .ok j)
    (hread : read j = .ok v) :
    ((∃ w v', parse v.json.text = .ok w ∧ read w = .ok v' ∧ v'.kind = v.kind)
      ↔ ∀ x, v = .float x → (ofFloat32 x).2.isSome)
    ∧ ∀ x, v = .float x → ∃ b ∈ j.parts, Schema.single b = .ok x ∧ ((ofFloat32 x).2.isSome
      ↔ ∀ y, b = .number (.float y) →
        ∃ m, (ofFloat y).2 = some m ∧ m.value < 2 ^ 128 - 2 ^ 103) := by
  have hparsed := parsed_of_parse hparse
  refine ⟨⟨?_, fun hfinite => ?_⟩, ?_⟩
  · rintro ⟨w, v', hw, hv', -⟩ x rfl
    rw [Option.isSome_iff_ne_none]
    exact fun hx => float_lost hx hw hv'
  · have hgives : ∃ kind : ValueKind, kind.Rewrites 126 v :=
      read_gives ValueKind.content_rewrites ValueKind.vacant_rewrites parsed_encloses j v
        hparsed hread
    obtain ⟨kind, rfl, h⟩ := hgives
    obtain ⟨w, v', hw, hcontent, hkind⟩ := h hfinite
    obtain ⟨all, hall, hagain⟩ := rereads_json hw
    exact ⟨all, v', hall.parse, hagain.trans hcontent, hkind⟩
  · rintro x rfl
    exact single_of_read hparsed hread

theorem rewritten_greatest :
    ∃ j v, parse greatestText = .ok j ∧ read j = .ok v
      ∧ (∀ x, v = .float x → (ofFloat32 x).2.isSome)
      ∧ ∃ w v', parse v.json.text = .ok w ∧ read w = .ok v' ∧ v'.kind = .double := by
  have hcomputed : ((parse greatestText).toOption.bind fun j => (read j).toOption).any
      (·.kind = .double) = true := by decide +kernel
  obtain ⟨j, v, hparse, hread, hkind⟩ := exists_read hcomputed
  rw [decide_eq_true_eq] at hkind
  have hfinite : ∀ x, v = .float x → (ofFloat32 x).2.isSome := by
    rintro x rfl
    cases hkind
  obtain ⟨w, v', hw, hv', hsame⟩ := (rewritten_iff hparse hread).1.mpr hfinite
  exact ⟨j, v, hparse, hread, hfinite, w, v', hw, hv', hsame.trans hkind⟩

/-- A value that is read is not always written as one: a number may be too large for 32 bits. -/
theorem single_unreadable :
    ¬ ∀ (text : String) (j : Json) (v : Value), parse text = .ok j → read j = .ok v →
      ∃ w v', parse v.json.text = .ok w ∧ read w = .ok v' ∧ v'.kind = v.kind := by
  intro h
  have hcomputed : ((parse infiniteText).toOption.bind fun j => (read j).toOption).any
      (fun | .float x => (ofFloat32 x).2.isNone | _ => false) = true := by decide +kernel
  obtain ⟨j, v, hparse, hread, hlost⟩ := exists_read hcomputed
  obtain ⟨w, v', hw, hv', -⟩ := h infiniteText j v hparse hread
  cases v with
  | float x => exact float_lost (Option.isNone_iff_eq_none.mp hlost) hw hv'
  | _ => cases hlost

end Value

end Model

end GroundLink
