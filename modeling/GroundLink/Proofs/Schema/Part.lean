import GroundLink.Proofs.Schema.Fields
import Mathlib.Data.List.Nodup

/-!
# What readers look at

A reader of records looks at the members under the keys of its fields and at no others. The part
of a value that it looks at is what is left when all other members have been taken away, also from
the records inside it.
-/

namespace GroundLink.Schema

open Json

variable {α β κ : Type}

/-! ### Parts -/

/-- What is left of values when some members have been taken away. -/
structure Part where
  of : Json → Json
  null_iff (j : Json) : of j = .null ↔ j = .null

namespace Part

instance : CoeFun Part fun _ => Json → Json := ⟨Part.of⟩

/-- Nothing is taken away. -/
def whole : Part := ⟨id, fun _ => .rfl⟩

/-- The parts of the items of a list. -/
def items (part : Part) : Part where
  of
    | .array xs => .array (xs.map part)
    | j => j
  null_iff j := by cases j <;> simp

/-- The parts of the members of an object, whatever their keys are. -/
def values (part : Part) : Part where
  of
    | .object ms => .object (ms.map fun m => (m.1, part m.2))
    | j => j
  null_iff j := by cases j <;> simp

/-- The parts of the members under some keys. -/
def ofMembers (parts : List (String × Part)) (ms : List (String × Json)) : List (String × Json) :=
  ms.filterMap fun m => (parts.lookup m.1).map fun part => (m.1, part m.2)

/-- The parts of items, each of which has a key by its place; further items are left as they are. -/
def ofItems : List (String × Part) → List Json → List Json
  | (_, part) :: parts, x :: xs => part x :: ofItems parts xs
  | _, xs => xs

/-- The part of a record with some keys. -/
def record (parts : List (String × Part)) : Part where
  of
    | .object ms => .object (ofMembers parts ms)
    | .array xs => .array (ofItems parts xs)
    | j => j
  null_iff j := by cases j <;> simp

@[simp] lemma ofItems_nil (xs : List Json) : ofItems [] xs = xs := by cases xs <;> rfl

@[simp] lemma ofItems_empty (parts : List (String × Part)) : ofItems parts [] = [] := by
  cases parts <;> rfl

lemma length_ofItems (parts : List (String × Part)) (xs : List Json) :
    (ofItems parts xs).length = xs.length := by
  induction parts generalizing xs with
  | nil => rw [ofItems_nil]
  | cons p parts ih =>
    cases xs with
    | nil => rfl
    | cons x xs => exact congrArg Nat.succ (ih xs)

lemma lookup_ofMembers {parts : List (String × Part)} {key : String} {part : Part}
    (h : parts.lookup key = some part) (ms : List (String × Json)) :
    lookup key (ofMembers parts ms) = (lookup key ms).map part := by
  induction ms with
  | nil => rfl
  | cons m ms ih =>
    obtain ⟨k, j⟩ := m
    by_cases hk : k = key
    · subst hk
      simp [ofMembers, lookup, h]
    · cases hpart : parts.lookup k with
      | none => simpa [ofMembers, lookup, hpart, hk] using ih
      | some p => simpa [ofMembers, lookup, hpart, hk] using ih

/-- A member under a key of no part is taken away. -/
lemma ofMembers_insert {parts : List (String × Part)} {key : String}
    (h : parts.lookup key = none) (v : Json) (ms : List (String × Json)) :
    ofMembers parts (insert key v ms) = ofMembers parts ms := by
  have hcons : ∀ w ns, ofMembers parts ((key, w) :: ns) = ofMembers parts ns := by
    intro w ns
    rw [ofMembers, List.filterMap_cons_none (by rw [h]; rfl), ofMembers]
  fun_induction insert key v ms with
  | case1 => exact hcons v []
  | case2 w rest => rw [hcons, hcons]
  | case3 => exact hcons v _
  | case4 k w rest _ _ ih => simp only [ofMembers, List.filterMap_cons] at ih ⊢; rw [ih]

end Part

/-! ### Readers -/

/-- A reader gives the same from a value as from this part of it, or refuses both with the same
reason. -/
def Reader.LooksAt (reader : Reader α) (part : Part) : Prop := ∀ j, reader (part j) = reader j

lemma looksAt_whole (reader : Reader α) : reader.LooksAt .whole := fun _ => rfl

lemma looksAt_map {reader : Reader α} {part : Part} (h : reader.LooksAt part) (f : α → β) :
    Reader.LooksAt (fun j => (reader j).map f) part :=
  fun j => congrArg (Except.map f) (h j)

lemma optional_looksAt {reader : Reader α} {part : Part} (h : reader.LooksAt part) :
    (optional reader).LooksAt part := by
  intro j
  by_cases hj : j = .null
  · rw [(part.null_iff j).mpr hj, hj]
  · rw [optional_of_ne_null hj, optional_of_ne_null (mt (part.null_iff j).mp hj), h j]

lemma mapM_congr {ε : Type} {f : β → Except ε α} {g : β → β} (h : ∀ b, f (g b) = f b)
    (bs : List β) :
    (bs.map g).mapM f = bs.mapM f := by
  induction bs with
  | nil => rfl
  | cons b bs ih => rw [List.map_cons, List.mapM_cons, List.mapM_cons, h, ih]

lemma list_looksAt {reader : Reader α} {part : Part} (h : reader.LooksAt part) :
    (list reader).LooksAt part.items := by
  intro j
  cases j with
  | array xs => exact mapM_congr h xs
  | _ => rfl

lemma members_looksAt {reader : Reader α} {part : Part} (key : String → Except ReadError κ)
    (h : reader.LooksAt part) : (members key reader).LooksAt part.values := by
  intro j
  cases j with
  | object ms => exact mapM_congr (fun m => by dsimp only; rw [h]) ms
  | _ => rfl

/-! ### Fields -/

namespace Fields

variable {parts : List (String × Part)} {part : Part} {key : String}

/-- Fields give the same from members, or items, as from these parts of them. -/
structure LooksAt (fields : Fields α) (parts : List (String × Part)) : Prop where
  ofMembers : ∀ ms ms', (∀ p ∈ parts, lookup p.1 ms' = (lookup p.1 ms).map p.2) →
    fields.ofMembers ms' = fields.ofMembers ms
  ofItems : ∀ index items later, fields.ofItems index (Part.ofItems (parts ++ later) items)
    = (fields.ofItems index items).map fun r => (r.1, r.2.1, Part.ofItems later r.2.2)

lemma pure_looksAt (a : α) : LooksAt (pure a) [] := ⟨fun _ _ _ => rfl, fun _ _ _ => rfl⟩

lemma LooksAt.seq {f : Fields (α → β)} {x : Fields α} {parts' : List (String × Part)}
    (hf : f.LooksAt parts) (hx : x.LooksAt parts') : (f <*> x).LooksAt (parts ++ parts') where
  ofMembers ms ms' h := by
    have hg := hf.ofMembers ms ms' fun p hp => h p (List.mem_append_left _ hp)
    have ha := hx.ofMembers ms ms' fun p hp => h p (List.mem_append_right _ hp)
    change (Fields.seq f x).ofMembers ms' = (Fields.seq f x).ofMembers ms
    simp only [Fields.seq, hg, ha]
  ofItems index items later := by
    change (Fields.seq f x).ofItems index _ = ((Fields.seq f x).ofItems index items).map _
    simp only [Fields.seq]
    rw [List.append_assoc, hf.ofItems]
    cases f.ofItems index items with
    | error e => rfl
    | ok r =>
      change (x.ofItems r.2.1 (Part.ofItems (parts' ++ later) r.2.2) >>= _)
        = (x.ofItems r.2.1 r.2.2 >>= _).map _
      rw [hx.ofItems]
      cases x.ofItems r.2.1 r.2.2 <;> rfl

lemma LooksAt.map {x : Fields α} (hx : x.LooksAt parts) (f : α → β) : (f <$> x).LooksAt parts :=
  (pure_looksAt f).seq hx

lemma field_looksAt (key : String) {reader : Reader α} {absent unlisted : Option α}
    (h : reader.LooksAt part) : (field key reader absent unlisted).LooksAt [(key, part)] where
  ofMembers ms ms' hms := by
    have hlookup : lookup key ms' = (lookup key ms).map part := hms (key, part) (.head _)
    simp only [field, hlookup]
    cases lookup key ms with
    | none => rfl
    | some j => simp only [Option.map_some, h j]
  ofItems index items later := by
    cases items with
    | nil =>
      simp only [field, Part.ofItems_empty]
      cases unlisted with
      | none => rfl
      | some a => simp [Except.map]
    | cons j items =>
      simp only [field, List.singleton_append, Part.ofItems, h j]
      cases reader j <;> rfl

lemma required_looksAt (key : String) {reader : Reader α} (h : reader.LooksAt part) :
    (required key reader).LooksAt [(key, part)] :=
  field_looksAt key h

lemma withDefault_looksAt (key : String) {reader : Reader α} (h : reader.LooksAt part) (a : α) :
    (withDefault key reader a).LooksAt [(key, part)] :=
  field_looksAt key h

lemma maybe_looksAt (key : String) {reader : Reader α} (h : reader.LooksAt part) :
    (maybe key reader).LooksAt [(key, part)] :=
  withDefault_looksAt key (optional_looksAt h) none

lemma nullable_looksAt (key : String) {reader : Reader α} (h : reader.LooksAt part) :
    (nullable key reader).LooksAt [(key, part)] :=
  field_looksAt key (optional_looksAt h)

lemma required_whole (key : String) (reader : Reader α) :
    (required key reader).LooksAt [(key, .whole)] :=
  required_looksAt key (looksAt_whole reader)

lemma withDefault_whole (key : String) (reader : Reader α) (a : α) :
    (withDefault key reader a).LooksAt [(key, .whole)] :=
  withDefault_looksAt key (looksAt_whole reader) a

lemma maybe_whole (key : String) (reader : Reader α) :
    (maybe key reader).LooksAt [(key, .whole)] :=
  maybe_looksAt key (looksAt_whole reader)

lemma nullable_whole (key : String) (reader : Reader α) :
    (nullable key reader).LooksAt [(key, .whole)] :=
  nullable_looksAt key (looksAt_whole reader)

lemma lookup_of_mem (hkeys : (parts.map (·.1)).Nodup) (h : (key, part) ∈ parts) :
    parts.lookup key = some part := by
  induction parts with
  | nil => cases h
  | cons p parts ih =>
    obtain ⟨hp, hkeys⟩ := List.nodup_cons.mp hkeys
    rcases List.mem_cons.mp h with rfl | h
    · exact List.lookup_cons_self
    · have hne : (key == p.1) = false := by
        rw [beq_eq_false_iff_ne]
        rintro rfl
        exact hp (List.mem_map.mpr ⟨_, h, rfl⟩)
      rw [List.lookup_cons, hne]
      exact ih hkeys h

lemma LooksAt.ofRecord {fields : Fields α} (h : fields.LooksAt parts)
    (hkeys : (parts.map (·.1)).Nodup) (ms : List (String × Json)) :
    fields.ofMembers (Part.ofMembers parts ms) = fields.ofMembers ms :=
  h.ofMembers _ _ fun _ hp => Part.lookup_ofMembers (lookup_of_mem hkeys hp) ms

lemma LooksAt.ofList {fields : Fields α} (h : fields.LooksAt parts) (index : Nat)
    (items : List Json) :
    fields.ofItems index (Part.ofItems parts items) = fields.ofItems index items := by
  have hitems := h.ofItems index items []
  simp only [List.append_nil, Part.ofItems_nil] at hitems
  rw [hitems]
  cases fields.ofItems index items <;> rfl

/-- A record is read from the part that its fields look at. -/
theorem LooksAt.read {fields : Fields α} (h : fields.LooksAt parts)
    (hkeys : (parts.map (·.1)).Nodup) (name : String) (origin : Origin) :
    (fields.read name origin).LooksAt (.record parts) := by
  intro j
  cases j with
  | object ms => exact congrArg (Except.mapError Failure.error) (h.ofRecord hkeys ms)
  | array items =>
    change fields.readItems _ _ (Part.ofItems parts items) = fields.readItems _ _ items
    rw [readItems, h.ofList, Part.length_ofItems, readItems]
  | _ => rfl

/-! ### A field that is kept -/

section Kept

variable {f : Fields (Json → β)}

lemma ofMembers_kept (f : Fields (Json → β)) (key : String) (d : Json) (ms : List (String × Json)) :
    (f <*> withDefault key any d).ofMembers ms
      = (f.ofMembers ms).map fun g => g ((lookup key ms).getD d) := by
  have hkept : (withDefault key any d).ofMembers ms = .ok ((lookup key ms).getD d) := by
    simp only [withDefault, field]
    cases lookup key ms <;> rfl
  change (Fields.seq f (withDefault key any d)).ofMembers ms = _
  simp only [Fields.seq, hkept]
  cases f.ofMembers ms <;> rfl

lemma ofItems_kept (f : Fields (Json → β)) (key : String) (d : Json) (index : Nat)
    (items : List Json) :
    (f <*> withDefault key any d).ofItems index items
      = (f.ofItems index items).map fun r => (r.1 (r.2.2.headD d), r.2.1 + 1, r.2.2.tail) := by
  change (Fields.seq f (withDefault key any d)).ofItems index items = _
  simp only [Fields.seq]
  cases f.ofItems index items with
  | error e => rfl
  | ok r =>
    obtain ⟨g, taken, rest⟩ := r
    cases rest <;> rfl

lemma part_getD (part : Part) (o : Option Json) :
    (o.map part).getD .null = part (o.getD .null) := by
  cases o with
  | none => exact ((part.null_iff .null).mpr rfl).symm
  | some j => rfl

/-- A record whose last field is kept has the part of this field in its place, where it is read from
its part. -/
theorem read_kept {put : β → β} (hf : f.LooksAt parts)
    (hput : f.Gives (fun _ => True) fun g => ∀ d, put (g d) = g (part d))
    (hkeys : ((parts ++ [(key, part)]).map (·.1)).Nodup) (name : String) (origin : Origin)
    (j : Json) :
    (f <*> withDefault key any .null).read name origin (Part.record (parts ++ [(key, part)]) j)
      = ((f <*> withDefault key any .null).read name origin j).map put := by
  cases j with
  | object ms =>
    let parted := Part.ofMembers (parts ++ [(key, part)]) ms
    have hlookup : ∀ p ∈ parts ++ [(key, part)], lookup p.1 parted = (lookup p.1 ms).map p.2 :=
      fun p hp => Part.lookup_ofMembers (lookup_of_mem hkeys hp) ms
    have hg := hf.ofMembers ms parted fun p hp => hlookup p (List.mem_append_left _ hp)
    have hd := hlookup (key, part) (List.mem_append_right _ (.head _))
    change Fields.readMembers _ parted = (Fields.readMembers _ ms).map put
    rw [readMembers, readMembers, ofMembers_kept, ofMembers_kept, hg, hd, part_getD]
    cases hgiven : f.ofMembers ms with
    | error e => rfl
    | ok g => exact congrArg Except.ok (hput.ofMembers ms g (fun _ _ => trivial) hgiven _).symm
  | array items =>
    change Fields.readItems _ _ _ (Part.ofItems _ items) = (Fields.readItems _ _ _ items).map put
    rw [readItems, readItems, ofItems_kept, ofItems_kept, hf.ofItems, Part.length_ofItems]
    cases hgiven : f.ofItems 0 items with
    | error e => cases e <;> rfl
    | ok r =>
      obtain ⟨g, taken, rest⟩ := r
      have hg := (hput.ofItems 0 items g taken rest (fun _ _ => trivial) hgiven).1
      cases rest with
      | nil =>
        -- The kept field has no item and is null, and so is its part.
        have hnull : part .null = .null := (part.null_iff .null).mpr rfl
        exact congrArg Except.ok ((congrArg g hnull).symm.trans (hg .null).symm)
      | cons d rest =>
        cases rest with
        | nil => exact congrArg Except.ok (hg d).symm
        | cons => rfl
  | _ => rfl

end Kept

end Fields

end GroundLink.Schema
