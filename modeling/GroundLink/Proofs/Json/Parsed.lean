import GroundLink.Proofs.Json.Numeral
import GroundLink.Proofs.Result

/-!
# What a text is read as

A text is read as a value whose integers have 64 bits, whose other numbers are finite, whose objects
list their members in the order of the keys, and whose lists and objects are not nested too deep.
Some value is read from the text of such a value again, and it is the same one, unless there is a
floating-point number in it.
-/

namespace GroundLink.Json

open Decimal

variable {size fuel depth : Nat} {value : ValueReader} {nested : Option ValueReader}

/-! ### Order -/

/-- The keys ascend. -/
def Ascending (ms : List (String × Json)) : Prop := ms.Pairwise (·.1 < ·.1)

lemma ascending_nil : Ascending [] := .nil

lemma ascending_iff_keys {ms : List (String × Json)} :
    Ascending ms ↔ (ms.map (·.1)).Pairwise (· < ·) :=
  List.pairwise_map.symm

lemma ascending_cons {m : String × Json} {ms : List (String × Json)} :
    Ascending (m :: ms) ↔ (∀ n ∈ ms, m.1 < n.1) ∧ Ascending ms :=
  List.pairwise_cons

lemma mem_insert {key : String} {v : Json} {ms : List (String × Json)} {m : String × Json}
    (h : m ∈ insert key v ms) : m = (key, v) ∨ m ∈ ms := by
  fun_induction insert key v ms with
  | case1 => exact .inl (List.mem_singleton.mp h)
  | case2 w rest => exact (List.mem_cons.mp h).imp_right (List.mem_cons_of_mem _)
  | case3 k w rest => exact List.mem_cons.mp h
  | case4 k w rest _ _ ih =>
    rcases List.mem_cons.mp h with rfl | h
    · exact .inr List.mem_cons_self
    · exact (ih h).imp_right (List.mem_cons_of_mem _)

lemma ascending_insert {key : String} {v : Json} {ms : List (String × Json)} (h : Ascending ms) :
    Ascending (insert key v ms) := by
  fun_induction insert key v ms with
  | case1 => exact List.pairwise_singleton ..
  | case2 w rest =>
    obtain ⟨hfirst, hrest⟩ := ascending_cons.mp h
    exact ascending_cons.mpr ⟨hfirst, hrest⟩
  | case3 k w rest _ hlt =>
    refine ascending_cons.mpr ⟨fun n hn => ?_, h⟩
    rcases List.mem_cons.mp hn with rfl | hn
    · exact hlt
    · exact String.lt_trans hlt ((ascending_cons.mp h).1 n hn)
  | case4 k w rest hne hge ih =>
    obtain ⟨hfirst, hrest⟩ := ascending_cons.mp h
    refine ascending_cons.mpr ⟨fun n hn => ?_, ih hrest⟩
    rcases mem_insert hn with rfl | hn
    · by_contra hlt
      exact hne (String.le_antisymm (String.not_lt.mp hlt) (String.not_lt.mp hge))
    · exact hfirst n hn

/-- A member goes behind those whose keys are less. -/
lemma insert_last {key : String} (v : Json) {ms : List (String × Json)}
    (h : ∀ m ∈ ms, m.1 < key) : insert key v ms = ms ++ [(key, v)] := by
  induction ms with
  | nil => rfl
  | cons m ms ih =>
    obtain ⟨hm, hms⟩ := List.forall_mem_cons.mp h
    have hne : key ≠ m.1 := fun heq => String.lt_irrefl key (heq ▸ hm)
    have hge : ¬ key < m.1 := String.lt_asymm hm
    rw [insert, if_neg hne, if_neg hge, ih hms]
    rfl

/-- Members that stand in their order stay as they are. -/
lemma insertAll_eq {seen ms : List (String × Json)} (h : Ascending (seen ++ ms)) :
    insertAll seen ms = seen ++ ms := by
  induction ms generalizing seen with
  | nil => exact (List.append_nil seen).symm
  | cons m ms ih =>
    obtain ⟨-, -, hseen⟩ := List.pairwise_append.mp h
    have hinsert := insert_last m.2 fun n hn => hseen n hn m (.head _)
    have hmore : Ascending ((seen ++ [m]) ++ ms) := by rwa [List.append_assoc]
    change insertAll (insert m.1 m.2 seen) ms = _
    rw [hinsert, ih hmore, List.append_assoc]
    rfl

/-- An object whose members stand in their order is read as it is. -/
lemma Rereads.ascending {ms : List (String × Json)} (h : Ascending ms)
    (hms : ∀ m ∈ ms, Rereads depth m.2 m.2) : Rereads (depth + 1) (.object ms) (.object ms) := by
  have hobject := Rereads.object (ms.map fun m => (m.1, m.2, m.2)) (List.forall_mem_map.mpr hms)
  have hinsert : insertAll [] ms = [] ++ ms := insertAll_eq h
  simp only [List.map_map, Function.comp_def, List.map_id'] at hobject
  rwa [hinsert, List.nil_append] at hobject

/-! ### Values -/

/-- A value that a text can be read as, with at most so many lists and objects around any value
inside it. -/
inductive Parsed : Nat → Json → Prop
  | null {depth : Nat} : Parsed depth .null
  | bool {depth : Nat} (b : Bool) : Parsed depth (.bool b)
  | int {depth : Nat} {n : Int} :
      Int64.minValue.toInt ≤ n → n < UInt64.size → Parsed depth (int n)
  | float {depth : Nat} {x : Float} : (ofFloat x).2.isSome → Parsed depth (.number (.float x))
  | string {depth : Nat} (s : String) : Parsed depth (.string s)
  | array {depth : Nat} {xs : List Json} : (∀ x ∈ xs, Parsed depth x) →
      Parsed (depth + 1) (.array xs)
  | object {depth : Nat} {ms : List (String × Json)} : Ascending ms →
      (∀ m ∈ ms, Parsed depth m.2) → Parsed (depth + 1) (.object ms)

/-- There is no floating-point number in a value. -/
inductive FloatFree : Json → Prop
  | null : FloatFree .null
  | bool (b : Bool) : FloatFree (.bool b)
  | int (n : Int) : FloatFree (int n)
  | string (s : String) : FloatFree (.string s)
  | array {xs : List Json} : (∀ x ∈ xs, FloatFree x) → FloatFree (.array xs)
  | object {ms : List (String × Json)} : (∀ m ∈ ms, FloatFree m.2) → FloatFree (.object ms)

@[simp] lemma floatFree_array {xs : List Json} :
    FloatFree (.array xs) ↔ ∀ x ∈ xs, FloatFree x :=
  ⟨fun | .array h => h, .array⟩

@[simp] lemma floatFree_object {ms : List (String × Json)} :
    FloatFree (.object ms) ↔ ∀ m ∈ ms, FloatFree m.2 :=
  ⟨fun | .object h => h, .object⟩

mutual

/-- Whether there is no floating-point number in a value. -/
def isFloatFree : Json → Bool
  | .null | .bool _ | .number (.int _) | .string _ => true
  | .number _ => false
  | .array xs => areFloatFree xs
  | .object ms => membersFloatFree ms

/-- Whether there is no floating-point number in some values. -/
def areFloatFree : List Json → Bool
  | [] => true
  | x :: xs => isFloatFree x && areFloatFree xs

/-- Whether there is no floating-point number in some members. -/
def membersFloatFree : List (String × Json) → Bool
  | [] => true
  | m :: ms => isFloatFree m.2 && membersFloatFree ms

end

mutual

lemma floatFree_of_isFloatFree (j : Json) (h : j.isFloatFree = true) : FloatFree j := by
  match j with
  | .null => exact .null
  | .bool b => exact .bool b
  | .number (.int n) => exact .int n
  | .string s => exact .string s
  | .array xs => exact .array (floatFree_of_areFloatFree xs h)
  | .object ms => exact .object (floatFree_of_membersFloatFree ms h)

lemma floatFree_of_areFloatFree (xs : List Json) (h : areFloatFree xs = true) :
    ∀ x ∈ xs, FloatFree x := by
  match xs with
  | [] => exact List.forall_mem_nil _
  | x :: xs =>
    rw [areFloatFree, Bool.and_eq_true] at h
    exact List.forall_mem_cons.mpr
      ⟨floatFree_of_isFloatFree x h.1, floatFree_of_areFloatFree xs h.2⟩

lemma floatFree_of_membersFloatFree (ms : List (String × Json)) (h : membersFloatFree ms = true) :
    ∀ m ∈ ms, FloatFree m.2 := by
  match ms with
  | [] => exact List.forall_mem_nil _
  | m :: ms =>
    rw [membersFloatFree, Bool.and_eq_true] at h
    exact List.forall_mem_cons.mpr
      ⟨floatFree_of_isFloatFree m.2 h.1, floatFree_of_membersFloatFree ms h.2⟩

end

lemma floatFree_record {ms : List (String × Option Json)} :
    FloatFree (record ms) ↔ ∀ m ∈ ms, ∀ v ∈ m.2, FloatFree v := by
  change FloatFree (.object (present ms)) ↔ _
  rw [floatFree_object]
  constructor
  · rintro h ⟨key, o⟩ hm v rfl
    exact h (key, v) (mem_present.mpr hm)
  · rintro h ⟨key, v⟩ hm
    exact h (key, some v) (mem_present.mp hm) v rfl

namespace Parsed

variable {v : Json}

lemma items {xs : List Json} (h : Parsed (depth + 1) (.array xs)) : ∀ x ∈ xs, Parsed depth x := by
  cases h with
  | array hxs => exact hxs

lemma members {ms : List (String × Json)} (h : Parsed (depth + 1) (.object ms)) :
    ∀ m ∈ ms, Parsed depth m.2 := by
  cases h with
  | object _ hms => exact hms

/-- A value without floating-point numbers is read from its own text. -/
theorem rereads (h : Parsed depth v) (hfree : FloatFree v) : Rereads depth v v := by
  induction h with
  | null => exact .null
  | bool b => exact .bool b
  | int hlow hhigh => exact .int hlow hhigh
  | float => cases hfree
  | string s => exact .string s
  | array _ ih =>
    have hxs := Rereads.arrayMap (f := id) (g := id) _ fun x hx =>
      ih x hx (floatFree_array.mp hfree x hx)
    rwa [List.map_id] at hxs
  | object hms _ ih => exact .ascending hms fun m hm => ih m hm (floatFree_object.mp hfree m hm)

/-- Some value is read from the text of a value. -/
theorem rewritten (h : Parsed depth v) : ∃ w, Rereads depth v w := by
  induction h with
  | null => exact ⟨_, .null⟩
  | bool b => exact ⟨_, .bool b⟩
  | int hlow hhigh => exact ⟨_, .int hlow hhigh⟩
  | float hx =>
    obtain ⟨y, hy⟩ := rereads_float hx _
    exact ⟨_, hy⟩
  | string s => exact ⟨_, .string s⟩
  | @array _ xs _ ih =>
    choose g hg using ih
    have hxs := Rereads.arrayMap (f := (·.1)) (g := fun x => g x.1 x.2) xs.attach
      fun x _ => hg x.1 x.2
    rw [List.attach_map_subtype_val] at hxs
    exact ⟨_, hxs⟩
  | @object _ ms _ _ ih =>
    choose g hg using ih
    have hms := Rereads.object (ms.attach.map fun m => (m.1.1, m.1.2, g m.1 m.2))
      (List.forall_mem_map.mpr fun m _ => hg m.1 m.2)
    have hkeys : (ms.attach.map fun m => (m.1.1, m.1.2, g m.1 m.2)).map (fun m => (m.1, m.2.1))
        = ms := by
      rw [List.map_map]
      exact List.attach_map_subtype_val ms
    rw [hkeys] at hms
    exact ⟨_, hms⟩

end Parsed

/-! ### Reading numbers -/

section Numbers

variable {negative : Bool} {significand : Nat} {scale : Int} {c c' : Cursor} {n : Number}

lemma signed_float {v : Option Magnitude} (hv : ∀ w ∈ v, double.Has w)
    (h : signed negative v c = .ok (n, c')) : ∃ x, n = .float x ∧ (ofFloat x).2.isSome := by
  cases v with
  | none => cases h
  | some v =>
    cases h
    exact ⟨_, rfl, by rw [ofFloat_toFloat negative hv]; rfl⟩

lemma signed_ofParts {m : Nat} {e : Int} (h : signed negative (ofParts m e) c = .ok (n, c')) :
    ∃ x, n = .float x ∧ (ofFloat x).2.isSome :=
  signed_float (fun _ => has_of_ofParts) h

lemma readExponent_float (h : readExponent negative significand scale c = .ok (n, c')) :
    ∃ x, n = .float x ∧ (ofFloat x).2.isSome := by
  simp only [readExponent] at h
  split at h
  · cases h
  · split at h
    · split at h
      · exact signed_ofParts h
      · -- one case for each sign of the exponent
        split at h
        all_goals
          split at h
          · cases h
          · exact signed_ofParts h
    · cases h

lemma readScale_float (h : readScale negative significand scale c = .ok (n, c')) :
    ∃ x, n = .float x ∧ (ofFloat x).2.isSome := by
  rw [readScale] at h
  split at h
  · exact readExponent_float h
  · exact readExponent_float h
  · exact signed_ofParts h

lemma readFraction_float (h : readFraction negative significand scale c = .ok (n, c')) :
    ∃ x, n = .float x ∧ (ofFloat x).2.isSome := by
  simp only [readFraction] at h
  split at h
  · cases h
  · cases h
  · exact readScale_float h

/-- A number is an integer of 64 bits only if all of its digits have been taken. -/
lemma readNumber_gives (h : readNumber negative c = .ok (n, c')) :
    (∃ x, n = .float x ∧ (ofFloat x).2.isSome) ∨ ∃ m < UInt64.size,
      m = Nat.ofDigitChars 10 (spanDigits c).1 0 ∧ n = integer negative m := by
  simp only [readNumber] at h
  split at h
  · cases h
  · cases h
  · cases h
  · split at h
    · exact .inl (readFraction_float h)
    · exact .inl (readExponent_float h)
    · exact .inl (readExponent_float h)
    · split at h
      case isTrue hall =>
        cases h
        exact .inr ⟨_, appendDigits_lt _ (by decide), appendDigits_all hall, rfl⟩
      case isFalse => exact .inl (signed_ofParts h)

lemma parsed_integer {n : Nat} (hn : n < UInt64.size) :
    Parsed depth (.number (integer negative n)) := by
  have hbound : Int64.minValue.toInt = -2 ^ 63 := rfl
  have hsize : UInt64.size = 2 ^ 64 := rfl
  rw [integer]
  split_ifs with hneg hfloat
  · exact .float (ofFloat_nearest_isSome true hn)
  · exact .int (by omega) (by omega)
  · exact .int (by omega) (by omega)

lemma readNumber_parsed (h : readNumber negative c = .ok (n, c')) : Parsed depth (.number n) := by
  rcases readNumber_gives h with ⟨x, rfl, hx⟩ | ⟨m, hm, -, rfl⟩
  · exact .float hx
  · exact parsed_integer hm

end Numbers

/-! ### Reading values -/

variable {c c' : Cursor}

/-- What a reader of values gives has been parsed. -/
def ValueReader.Gives (value : ValueReader) (depth : Nat) : Prop :=
  ∀ c v c', value c = .ok (v, c') → Parsed depth v

lemma readItems_parsed (hvalue : value.Gives depth) {first : Bool} {xs : List Json}
    (h : readItems value fuel first c = .ok (xs, c')) : ∀ x ∈ xs, Parsed depth x := by
  induction fuel generalizing first c xs c' with
  | zero => cases h
  | succ fuel ih =>
    have hitem : ∀ {c xs c'}, readItem value fuel c = .ok (xs, c') → ∀ x ∈ xs, Parsed depth x := by
      intro c xs c' h
      obtain ⟨⟨x, c₁⟩, hx, h⟩ := bind_eq_ok.mp h
      obtain ⟨⟨ys, c₂⟩, hys, h⟩ := bind_eq_ok.mp h
      cases h
      exact List.forall_mem_cons.mpr ⟨hvalue _ _ _ hx, ih hys⟩
    simp only [readItems] at h
    split at h
    · cases h
    · cases h
      exact List.forall_mem_nil _
    · split at h
      · exact hitem h
      · split at h
        · split at h
          · cases h
          · cases h
          · exact hitem h
        · cases h

lemma readMember_parsed (hvalue : value.Gives depth) {m : String × Json}
    (h : readMember value c = .ok (m, c')) : Parsed depth m.2 := by
  obtain ⟨⟨key, c₁⟩, -, h⟩ := bind_eq_ok.mp h
  dsimp only at h
  split at h
  · cases h
  · obtain ⟨⟨x, c₂⟩, hx, h⟩ := bind_eq_ok.mp h
    cases h
    exact hvalue _ _ _ hx
  · cases h

lemma readMembers_parsed (hvalue : value.Gives depth) {first : Bool}
    {seen ms : List (String × Json)} (hseen : Ascending seen ∧ ∀ m ∈ seen, Parsed depth m.2)
    (h : readMembers value fuel first seen c = .ok (ms, c')) :
    Ascending ms ∧ ∀ m ∈ ms, Parsed depth m.2 := by
  induction fuel generalizing first seen c with
  | zero => cases h
  | succ fuel ih =>
    have hmember : ∀ {c}, readMemberThen value fuel seen c = .ok (ms, c') →
        Ascending ms ∧ ∀ m ∈ ms, Parsed depth m.2 := by
      intro c h
      obtain ⟨⟨⟨key, x⟩, c₁⟩, hx, h⟩ := bind_eq_ok.mp h
      refine ih ⟨ascending_insert hseen.1, fun m hm => ?_⟩ h
      rcases mem_insert hm with rfl | hm
      · exact readMember_parsed hvalue hx
      · exact hseen.2 m hm
    simp only [readMembers] at h
    split at h
    · cases h
    · cases h
      exact hseen
    · split at h
      · split at h
        · exact hmember h
        · cases h
      · split at h
        · split at h
          · cases h
          · exact hmember h
          · cases h
          · cases h
        · cases h

lemma readWord_gives {letters : String} {v w : Json} (h : readWord letters v c = .ok (w, c')) :
    w = v := by
  obtain ⟨c₁, -, heq⟩ := map_eq_ok.mp h
  cases heq
  rfl

lemma readValueWith_gives
    (hnested : ∀ value ∈ nested, ∃ d, depth = d + 1 ∧ value.Gives d) :
    ValueReader.Gives (readValueWith size nested) depth := by
  intro c v c' h
  simp only [readValueWith] at h
  split at h
  · cases h
  -- one case for each way that a value begins
  split_ifs at h
  · obtain rfl := readWord_gives h
    exact .null
  · obtain rfl := readWord_gives h
    exact .bool true
  · obtain rfl := readWord_gives h
    exact .bool false
  · obtain ⟨⟨n, c₁⟩, hn, heq⟩ := map_eq_ok.mp h
    cases heq
    exact readNumber_parsed hn
  · obtain ⟨⟨n, c₁⟩, hn, heq⟩ := map_eq_ok.mp h
    cases heq
    exact readNumber_parsed hn
  · obtain ⟨⟨s, c₁⟩, -, heq⟩ := map_eq_ok.mp h
    cases heq
    exact .string s
  · cases nested with
    | none => cases h
    | some value =>
      obtain ⟨d, rfl, hvalue⟩ := hnested value rfl
      obtain ⟨⟨xs, c₁⟩, hxs, heq⟩ := map_eq_ok.mp h
      cases heq
      exact .array (readItems_parsed hvalue hxs)
  · cases nested with
    | none => cases h
    | some value =>
      obtain ⟨d, rfl, hvalue⟩ := hnested value rfl
      obtain ⟨⟨ms, c₁⟩, hms, heq⟩ := map_eq_ok.mp h
      cases heq
      obtain ⟨hordered, hparsed⟩ :=
        readMembers_parsed hvalue ⟨ascending_nil, List.forall_mem_nil _⟩ hms
      exact .object hordered hparsed

lemma readValue_gives (size depth : Nat) : ValueReader.Gives (readValue size depth) depth := by
  induction depth with
  | zero => exact readValueWith_gives nofun
  | succ depth ih =>
    refine readValueWith_gives fun value hvalue => ?_
    obtain rfl := Option.some.inj hvalue
    exact ⟨depth, rfl, ih⟩

/-- What a text is read as has been parsed. -/
theorem parsed_of_parse {text : String} {v : Json} (h : parse text = .ok v) :
    Parsed depthLimit v := by
  obtain ⟨⟨w, c⟩, hw, h⟩ := bind_eq_ok.mp h
  dsimp only at h
  split at h
  · cases h
    exact readValue_gives _ _ _ _ _ hw
  · cases h

end GroundLink.Json
