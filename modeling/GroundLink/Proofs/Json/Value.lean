import GroundLink.Proofs.Json.Token
import Mathlib.Data.List.Nodup

/-!
# Values that are read again

A value without floating-point numbers is read from its own text again, if its integers have 64 bits
and its lists and objects are not nested too deep. The members of an object come into the order of
their keys.
-/

namespace GroundLink.Json

open Decimal

variable {size fuel depth : Nat} {value : ValueReader} {nested : Option ValueReader}

/-! ### Members in order -/

/-- Puts some members in their places, one after another. -/
def insertAll (seen ms : List (String × Json)) : List (String × Json) :=
  ms.foldl (fun seen m => insert m.1 m.2 seen) seen

lemma lookup_insertAll_of_not_mem {key : String} {ms : List (String × Json)}
    (h : key ∉ ms.map (·.1)) (seen : List (String × Json)) :
    lookup key (insertAll seen ms) = lookup key seen := by
  induction ms generalizing seen with
  | nil => rfl
  | cons m ms ih =>
    rw [List.map_cons, List.mem_cons, not_or] at h
    exact (ih h.2 _).trans (lookup_insert_of_ne (Ne.symm h.1) m.2 seen)

/-- Where no two members have the same key, each of them is found under its own. -/
lemma lookup_insertAll {key : String} {v : Json} {ms : List (String × Json)}
    (hkeys : (ms.map (·.1)).Nodup) (h : (key, v) ∈ ms) (seen : List (String × Json)) :
    lookup key (insertAll seen ms) = some v := by
  induction ms generalizing seen with
  | nil => cases h
  | cons m ms ih =>
    obtain ⟨hnew, hkeys⟩ := List.nodup_cons.mp hkeys
    rcases List.mem_cons.mp h with rfl | h
    · exact (lookup_insertAll_of_not_mem hnew _).trans (lookup_insert_self ..)
    · exact ih hkeys h _

lemma insert_perm {key : String} {ms : List (String × Json)} (h : key ∉ ms.map (·.1)) (v : Json) :
    (insert key v ms).Perm ((key, v) :: ms) := by
  fun_induction insert key v ms with
  | case1 => exact .refl _
  | case2 w rest => exact absurd (.head _) h
  | case3 => exact .refl _
  | case4 k w rest _ _ ih =>
    rw [List.map_cons, List.mem_cons, not_or] at h
    exact ((ih h.2).cons _).trans (.swap ..)

/-- Members with different keys are put in another order. -/
lemma insertAll_perm {seen ms : List (String × Json)}
    (h : ((seen ++ ms).map (·.1)).Nodup) : (insertAll seen ms).Perm (seen ++ ms) := by
  induction ms generalizing seen with
  | nil => rw [List.append_nil]; exact .refl _
  | cons m ms ih =>
    have hmiddle : (seen ++ m :: ms).Perm (m :: seen ++ ms) := List.perm_middle
    have hkeys := (hmiddle.map (·.1)).nodup_iff.mp h
    have hnew : m.1 ∉ seen.map (·.1) := fun hmem => by
      rw [List.cons_append, List.map_cons, List.map_append] at hkeys
      exact (List.nodup_cons.mp hkeys).1 (List.mem_append_left _ hmem)
    have hinsert := (insert_perm hnew m.2).append_right ms
    have hput : (insertAll (insert m.1 m.2 seen) ms).Perm (insert m.1 m.2 seen ++ ms) :=
      ih ((hinsert.map _).nodup_iff.mpr hkeys)
    exact (hput.trans hinsert).trans hmiddle.symm

/-- The members that are present. -/
def present (ms : List (String × Option Json)) : List (String × Json) :=
  ms.filterMap fun m => m.2.map (m.1, ·)

lemma mem_present {key : String} {v : Json} {ms : List (String × Option Json)} :
    (key, v) ∈ present ms ↔ (key, some v) ∈ ms := by
  rw [present, List.mem_filterMap]
  constructor
  · rintro ⟨⟨k, o⟩, hm, heq⟩
    obtain ⟨w, rfl, hw⟩ := Option.map_eq_some_iff.mp heq
    cases hw
    exact hm
  · exact fun hm => ⟨_, hm, rfl⟩

lemma keys_present (ms : List (String × Option Json)) :
    ((present ms).map (·.1)).Sublist (ms.map (·.1)) := by
  induction ms with
  | nil => exact List.Sublist.slnil
  | cons m ms ih =>
    obtain ⟨key, o⟩ := m
    cases o with
    | none => exact ih.cons key
    | some v => exact ih.cons_cons key

lemma lookup_of_mem {key : String} {v : Json} {ms : List (String × Json)}
    (hkeys : (ms.map (·.1)).Nodup) (h : (key, v) ∈ ms) : lookup key ms = some v := by
  induction ms with
  | nil => cases h
  | cons m ms ih =>
    obtain ⟨hnew, hkeys⟩ := List.nodup_cons.mp hkeys
    rcases List.mem_cons.mp h with rfl | h
    · exact if_pos rfl
    · have hmem : key ∈ ms.map (·.1) := List.mem_map.mpr ⟨_, h, rfl⟩
      have hne : m.1 ≠ key := by
        rintro rfl
        exact hnew hmem
      exact (if_neg hne).trans (ih hkeys h)

/-- What stands under a key of a record, where no two members have the same key. -/
lemma lookup_present {key : String} {v : Json} {ms : List (String × Option Json)}
    (hkeys : (ms.map (·.1)).Nodup) (h : (key, some v) ∈ ms) : lookup key (present ms) = some v :=
  lookup_of_mem (hkeys.sublist (keys_present ms)) (mem_present.mpr h)

/-- The members of a record as they are when they have been read. -/
def reread (ms : List (String × Option Json)) : List (String × Json) := insertAll [] (present ms)

/-- What is found in a record that has been read, where no two members have the same key. -/
lemma lookup_reread {key : String} {o : Option Json} {ms : List (String × Option Json)}
    (hkeys : (ms.map (·.1)).Nodup) (h : (key, o) ∈ ms) : lookup key (reread ms) = o := by
  cases o with
  | some v => exact lookup_insertAll (hkeys.sublist (keys_present ms)) (mem_present.mpr h) []
  | none =>
    refine lookup_insertAll_of_not_mem (fun hmem => ?_) []
    obtain ⟨⟨k, v⟩, hm, rfl⟩ := List.mem_map.mp hmem
    cases List.inj_on_of_nodup_map hkeys h (mem_present.mp hm) rfl

/-! ### Beginnings -/

/-- A text begins as values do. -/
def Begins (text : List Char) : Prop :=
  ∃ c cs, text = c :: cs ∧ Cursor.isBlank c = false ∧ c ≠ ']'

lemma skipBlank_cons {c : Char} (hc : Cursor.isBlank c = false) (rest : List Char)
    (pos : Position) : Cursor.skipBlank ⟨c :: rest, pos⟩ = ⟨c :: rest, pos⟩ :=
  if_neg (Bool.eq_false_iff.mp hc)

lemma isBlank_of_isDigit {c : Char} (hc : c.isDigit = true) : Cursor.isBlank c = false := by
  cases hblank : Cursor.isBlank c with
  | false => rfl
  | true =>
    simp only [Cursor.isBlank, Bool.or_eq_true, decide_eq_true_eq] at hblank
    rcases hblank with ((rfl | rfl) | rfl) | rfl <;> cases hc

lemma begins_cons {c : Char} {cs : List Char} (hblank : Cursor.isBlank c = false)
    (hne : c ≠ ']') : Begins (c :: cs) :=
  ⟨c, cs, rfl, hblank, hne⟩

lemma begins_int (n : Int) : Begins (chars (int n)) := by
  change Begins (intChars n)
  rw [intChars]
  split
  · exact begins_cons rfl (by decide)
  · obtain ⟨c, cs, hdigits, hc⟩ := digitsOf_cons n.natAbs
    rw [hdigits]
    exact begins_cons (isBlank_of_isDigit hc) (ne_of_isDigit hc rfl)

/-! ### Scalars -/

lemma readValueWith_string (s : String) :
    ReadsAs (readValueWith size nested) (chars (.string s)) (.string s) := by
  intro rest pos _
  obtain ⟨pos', h⟩ := stringBody_eq s rest (pos.past '"')
  refine ⟨pos', ?_⟩
  have hbody : readValueWith size nested ⟨chars (.string s) ++ rest, pos⟩
      = (stringBody ((s.toList.flatMap escapeChar ++ ['"']) ++ rest) (pos.past '"') .plain []).map
          fun p => (.string p.1, p.2) := rfl
  rw [hbody, List.append_assoc, List.singleton_append, h]
  rfl

lemma readValueWith_minus_eq (cs : List Char) (pos : Position) :
    readValueWith size nested ⟨'-' :: cs, pos⟩
      = (readNumber true ⟨cs, pos.past '-'⟩).map fun p => (.number p.1, p.2) := rfl

lemma readValueWith_digit_eq {c : Char} (hc : c.isDigit = true) (cs : List Char)
    (pos : Position) :
    readValueWith size nested ⟨c :: cs, pos⟩
      = (readNumber false ⟨c :: cs, pos⟩).map fun p => (.number p.1, p.2) := by
  simp only [readValueWith, skipBlank_cons (isBlank_of_isDigit hc)]
  rw [if_neg (ne_of_isDigit hc rfl), if_neg (ne_of_isDigit hc rfl), if_neg (ne_of_isDigit hc rfl),
    if_neg (ne_of_isDigit hc rfl), if_pos hc]

lemma readValueWith_minus {cs : List Char} {n : Number} (h : ReadsAs (readNumber true) cs n) :
    ReadsAs (readValueWith size nested) ('-' :: cs) (.number n) := by
  intro rest pos hrest
  obtain ⟨pos', hread⟩ := h rest (pos.past '-') hrest
  refine ⟨pos', ?_⟩
  rw [List.cons_append, readValueWith_minus_eq, hread]
  rfl

lemma readValueWith_digit {c : Char} {cs : List Char} {n : Number} (hc : c.isDigit = true)
    (h : ReadsAs (readNumber false) (c :: cs) n) :
    ReadsAs (readValueWith size nested) (c :: cs) (.number n) := by
  intro rest pos hrest
  obtain ⟨pos', hread⟩ := h rest pos hrest
  refine ⟨pos', ?_⟩
  rw [List.cons_append] at hread ⊢
  rw [readValueWith_digit_eq hc, hread]
  rfl

/-- An integer of 64 bits is read as it is written. -/
lemma readValueWith_int {n : Int} (hlow : Int64.minValue.toInt ≤ n) (hhigh : n < UInt64.size) :
    ReadsAs (readValueWith size nested) (chars (int n)) (int n) := by
  change ReadsAs _ (intChars n) _
  have hbound : Int64.minValue.toInt = -2 ^ 63 := rfl
  have hsize : UInt64.size = 2 ^ 64 := rfl
  rw [intChars]
  split
  case isTrue hneg =>
    have habs : -(n.natAbs : Int) = n := by omega
    have hreads := readNumber_digitsOf true (n := n.natAbs) (by omega)
    rw [integer, if_pos rfl, if_neg (by omega), habs] at hreads
    exact readValueWith_minus hreads
  case isFalse hpos =>
    have habs : (n.natAbs : Int) = n := by omega
    have hreads := readNumber_digitsOf false (n := n.natAbs) (by omega)
    rw [integer, if_neg Bool.false_ne_true, habs] at hreads
    obtain ⟨c, cs, hdigits, hc⟩ := digitsOf_cons n.natAbs
    rw [hdigits] at hreads ⊢
    exact readValueWith_digit hc hreads

/-! ### Lists -/

/-- What follows an item of a list. -/
def moreItems : List Json → List Char
  | [] => [']']
  | xs => ',' :: itemChars xs

lemma itemChars_cons (x : Json) (xs : List Json) :
    itemChars (x :: xs) = chars x ++ moreItems xs := by
  cases xs <;> rfl

lemma endsNumber_moreItems (xs : List Json) (rest : List Char) :
    EndsNumber (moreItems xs ++ rest) := by
  cases xs <;> exact endsNumber_cons (by decide)

/-- Reads an item and what follows it. -/
def readItem (value : ValueReader) (fuel : Nat) (c : Cursor) :
    Except SyntaxError (List Json × Cursor) := do
  let (x, c) ← value c
  let (xs, c) ← readItems value fuel false c
  return (x :: xs, c)

lemma readItems_first {text : List Char} (hbegins : Begins text) (rest : List Char)
    (pos : Position) :
    readItems value (fuel + 1) true ⟨text ++ rest, pos⟩
      = readItem value fuel ⟨text ++ rest, pos⟩ := by
  obtain ⟨c, cs, rfl, hblank, hne⟩ := hbegins
  rw [List.cons_append, readItems, skipBlank_cons hblank]
  split
  case h_1 hnil => cases hnil
  case h_2 hend => exact absurd (List.cons.inj hend).1 hne
  case h_3 => rfl

lemma readItems_next {text : List Char} (hbegins : Begins text) (rest : List Char)
    (pos : Position) :
    readItems value (fuel + 1) false ⟨',' :: text ++ rest, pos⟩
      = readItem value fuel ⟨text ++ rest, pos.past ','⟩ := by
  obtain ⟨c, cs, rfl, hblank, hne⟩ := hbegins
  have hskip : Cursor.skipBlank (Cursor.advance ⟨',' :: c :: (cs ++ rest), pos⟩)
      = ⟨c :: (cs ++ rest), pos.past ','⟩ := skipBlank_cons hblank ..
  rw [List.cons_append, readItems, skipBlank_cons rfl]
  simp only [Bool.false_eq_true, if_false, List.cons_append, hskip]
  split
  case h_1 hnil => cases hnil
  case h_2 hend => cases hend
  case h_3 hcomma =>
    rw [if_pos (List.cons.inj hcomma).1.symm]
    split
    case h_1 hnil => cases hnil
    case h_2 hend => exact absurd (List.cons.inj hend).1 hne
    case h_3 => rfl

lemma readItem_reads {x y : Json} {xs ys : List Json} (hreads : ReadsAs value (chars x) y)
    (hmore : ∀ rest pos, ∃ pos', readItems value fuel false ⟨moreItems xs ++ rest, pos⟩
      = .ok (ys, ⟨rest, pos'⟩))
    (rest : List Char) (pos : Position) :
    ∃ pos', readItem value fuel ⟨itemChars (x :: xs) ++ rest, pos⟩
      = .ok (y :: ys, ⟨rest, pos'⟩) := by
  obtain ⟨pos₁, hitem⟩ := hreads (moreItems xs ++ rest) pos (endsNumber_moreItems xs rest)
  obtain ⟨pos₂, hrest⟩ := hmore rest pos₁
  refine ⟨pos₂, ?_⟩
  rw [readItem, itemChars_cons, List.append_assoc, hitem]
  change (readItems value fuel false ⟨moreItems xs ++ rest, pos₁⟩ >>= _) = _
  rw [hrest]
  rfl

lemma begins_itemChars {x : Json} (hbegins : Begins (chars x)) (xs : List Json) :
    Begins (itemChars (x :: xs)) := by
  obtain ⟨c, cs, hx, hc⟩ := hbegins
  exact ⟨c, cs ++ moreItems xs, by rw [itemChars_cons, hx, List.cons_append], hc⟩

/-- The items that are still to come are read. -/
lemma readItems_more (xs : List (Json × Json)) (hbegins : ∀ x ∈ xs, Begins (chars x.1))
    (hreads : ∀ x ∈ xs, ReadsAs value (chars x.1) x.2) (hfuel : xs.length < fuel)
    (rest : List Char) (pos : Position) :
    ∃ pos', readItems value fuel false ⟨moreItems (xs.map (·.1)) ++ rest, pos⟩
      = .ok (xs.map (·.2), ⟨rest, pos'⟩) := by
  obtain ⟨fuel, rfl⟩ := Nat.exists_eq_succ_of_ne_zero (Nat.ne_zero_of_lt hfuel)
  induction xs generalizing fuel rest pos with
  | nil => exact ⟨pos.past ']', rfl⟩
  | cons x xs ih =>
    obtain ⟨fuel, rfl⟩ := Nat.exists_eq_succ_of_ne_zero
      (Nat.ne_zero_of_lt (Nat.lt_of_succ_lt_succ hfuel))
    have hmore := fun rest pos => ih (fun y hy => hbegins y (.tail _ hy))
      (fun y hy => hreads y (.tail _ hy)) rest pos fuel (Nat.lt_of_succ_lt_succ hfuel)
    obtain ⟨pos', h⟩ := readItem_reads (hreads x (.head _)) hmore rest (pos.past ',')
    exact ⟨pos', (readItems_next (begins_itemChars (hbegins x (.head _)) _) rest pos).trans h⟩

/-- The items of a list are read. -/
lemma readItems_reads (xs : List (Json × Json)) (hbegins : ∀ x ∈ xs, Begins (chars x.1))
    (hreads : ∀ x ∈ xs, ReadsAs value (chars x.1) x.2) (hfuel : xs.length < fuel)
    (rest : List Char) (pos : Position) :
    ∃ pos', readItems value fuel true ⟨itemChars (xs.map (·.1)) ++ rest, pos⟩
      = .ok (xs.map (·.2), ⟨rest, pos'⟩) := by
  obtain ⟨fuel, rfl⟩ := Nat.exists_eq_succ_of_ne_zero (Nat.ne_zero_of_lt hfuel)
  cases xs with
  | nil => exact ⟨pos.past ']', rfl⟩
  | cons x xs =>
    have hmore := readItems_more xs (fun y hy => hbegins y (.tail _ hy))
      (fun y hy => hreads y (.tail _ hy)) (Nat.lt_of_succ_lt_succ hfuel)
    obtain ⟨pos', h⟩ := readItem_reads (hreads x (.head _)) hmore rest pos
    exact ⟨pos', (readItems_first (begins_itemChars (hbegins x (.head _)) _) rest pos).trans h⟩

/-! ### Objects -/

/-- What follows a member of an object. -/
def moreMembers : List (String × Json) → List Char
  | [] => ['\x7d']
  | ms => ',' :: memberChars ms

/-- A key behind its opening quote, the value, and what follows. -/
lemma memberChars_cons (m : String × Json) (ms : List (String × Json)) :
    memberChars (m :: ms) = '"' :: (m.1.toList.flatMap escapeChar
      ++ '"' :: ':' :: (chars m.2 ++ moreMembers ms)) := by
  cases ms <;> simp [memberChars, stringChars, moreMembers]

lemma endsNumber_moreMembers (ms : List (String × Json)) (rest : List Char) :
    EndsNumber (moreMembers ms ++ rest) := by
  cases ms <;> exact endsNumber_cons (by decide)

/-- Reads a member and what follows it. -/
def readMemberThen (value : ValueReader) (fuel : Nat) (seen : List (String × Json)) (c : Cursor) :
    Except SyntaxError (List (String × Json) × Cursor) := do
  let ((key, x), c) ← readMember value c.advance
  readMembers value fuel false (insert key x seen) c

lemma readMembers_first (seen : List (String × Json)) (rest : List Char) (pos : Position) :
    readMembers value (fuel + 1) true seen ⟨'"' :: rest, pos⟩
      = readMemberThen value fuel seen ⟨'"' :: rest, pos⟩ := rfl

lemma readMembers_next (seen : List (String × Json)) (rest : List Char) (pos : Position) :
    readMembers value (fuel + 1) false seen ⟨',' :: '"' :: rest, pos⟩
      = readMemberThen value fuel seen ⟨'"' :: rest, pos.past ','⟩ := rfl

lemma readMember_reads (key : String) {x y : Json} (hreads : ReadsAs value (chars x) y)
    {rest : List Char} (hrest : EndsNumber rest) (pos : Position) :
    ∃ pos', readMember value
      ⟨key.toList.flatMap escapeChar ++ '"' :: ':' :: (chars x ++ rest), pos⟩
        = .ok ((key, y), ⟨rest, pos'⟩) := by
  obtain ⟨pos₁, hkey⟩ := stringBody_eq key (':' :: (chars x ++ rest)) pos
  obtain ⟨pos₂, hvalue⟩ := hreads rest (pos₁.past ':') hrest
  refine ⟨pos₂, ?_⟩
  rw [readMember, hkey]
  change (value ⟨chars x ++ rest, pos₁.past ':'⟩ >>= _) = _
  rw [hvalue]
  rfl

lemma readMemberThen_reads {key : String} {x y : Json} {ms : List (String × Json)}
    {seen all : List (String × Json)} (hreads : ReadsAs value (chars x) y)
    (hmore : ∀ rest pos, ∃ pos', readMembers value fuel false (insert key y seen)
      ⟨moreMembers ms ++ rest, pos⟩ = .ok (all, ⟨rest, pos'⟩))
    (rest : List Char) (pos : Position) :
    ∃ pos', readMemberThen value fuel seen ⟨memberChars ((key, x) :: ms) ++ rest, pos⟩
      = .ok (all, ⟨rest, pos'⟩) := by
  obtain ⟨pos₁, hmember⟩ :=
    readMember_reads key hreads (endsNumber_moreMembers ms rest) (pos.past '"')
  obtain ⟨pos₂, hrest⟩ := hmore rest pos₁
  refine ⟨pos₂, ?_⟩
  rw [readMemberThen, memberChars_cons]
  simp only [List.cons_append, List.append_assoc]
  change (readMember value ⟨_, pos.past '"'⟩ >>= _) = _
  rw [hmember]
  exact hrest

/-- The members that are still to come are read. -/
lemma readMembers_more (ms : List (String × Json × Json))
    (hreads : ∀ m ∈ ms, ReadsAs value (chars m.2.1) m.2.2) (hfuel : ms.length < fuel)
    (seen : List (String × Json)) (rest : List Char) (pos : Position) :
    ∃ pos', readMembers value fuel false seen
      ⟨moreMembers (ms.map fun m => (m.1, m.2.1)) ++ rest, pos⟩
        = .ok (insertAll seen (ms.map fun m => (m.1, m.2.2)), ⟨rest, pos'⟩) := by
  obtain ⟨fuel, rfl⟩ := Nat.exists_eq_succ_of_ne_zero (Nat.ne_zero_of_lt hfuel)
  induction ms generalizing fuel seen rest pos with
  | nil => exact ⟨pos.past '\x7d', rfl⟩
  | cons m ms ih =>
    obtain ⟨fuel, rfl⟩ := Nat.exists_eq_succ_of_ne_zero
      (Nat.ne_zero_of_lt (Nat.lt_of_succ_lt_succ hfuel))
    have hmore := fun rest pos => ih (fun n hn => hreads n (.tail _ hn)) (insert m.1 m.2.2 seen)
      rest pos fuel (Nat.lt_of_succ_lt_succ hfuel)
    obtain ⟨pos', h⟩ := readMemberThen_reads (hreads m (.head _)) hmore rest (pos.past ',')
    refine ⟨pos', Eq.trans ?_ h⟩
    rw [List.map_cons, moreMembers, memberChars_cons]
    · exact readMembers_next ..
    · rintro ⟨⟩

/-- The members of an object are read. -/
lemma readMembers_reads (ms : List (String × Json × Json))
    (hreads : ∀ m ∈ ms, ReadsAs value (chars m.2.1) m.2.2) (hfuel : ms.length < fuel)
    (rest : List Char) (pos : Position) :
    ∃ pos', readMembers value fuel true []
      ⟨memberChars (ms.map fun m => (m.1, m.2.1)) ++ rest, pos⟩
        = .ok (insertAll [] (ms.map fun m => (m.1, m.2.2)), ⟨rest, pos'⟩) := by
  obtain ⟨fuel, rfl⟩ := Nat.exists_eq_succ_of_ne_zero (Nat.ne_zero_of_lt hfuel)
  cases ms with
  | nil => exact ⟨pos.past '\x7d', rfl⟩
  | cons m ms =>
    have hmore := readMembers_more ms (fun n hn => hreads n (.tail _ hn))
      (Nat.lt_of_succ_lt_succ hfuel) (insert m.1 m.2.2 [])
    obtain ⟨pos', h⟩ := readMemberThen_reads (hreads m (.head _)) hmore rest pos
    refine ⟨pos', Eq.trans ?_ h⟩
    rw [List.map_cons, memberChars_cons]
    exact readMembers_first ..

/-! ### Values -/

/-- A value, and what its text is read as, with at most so many lists and objects around any value
inside it. -/
inductive Rereads : Nat → Json → Json → Prop
  | null {depth : Nat} : Rereads depth .null .null
  | bool {depth : Nat} (b : Bool) : Rereads depth (.bool b) (.bool b)
  | int {depth : Nat} {n : Int} :
      Int64.minValue.toInt ≤ n → n < UInt64.size → Rereads depth (int n) (int n)
  | string {depth : Nat} (s : String) : Rereads depth (.string s) (.string s)
  | scalar {depth : Nat} {v w : Json} : Begins (chars v) →
      (∀ size nested, ReadsAs (readValueWith size nested) (chars v) w) → Rereads depth v w
  | array {depth : Nat} (xs : List (Json × Json)) :
      (∀ x ∈ xs, Rereads depth x.1 x.2) →
      Rereads (depth + 1) (.array (xs.map (·.1))) (.array (xs.map (·.2)))
  | object {depth : Nat} (ms : List (String × Json × Json)) :
      (∀ m ∈ ms, Rereads depth m.2.1 m.2.2) →
      Rereads (depth + 1) (.object (ms.map fun m => (m.1, m.2.1)))
        (.object (insertAll [] (ms.map fun m => (m.1, m.2.2))))

namespace Rereads

variable {v w : Json}

lemma begins (h : Rereads depth v w) : Begins (chars v) := by
  cases h with
  | null => exact begins_cons rfl (by decide)
  | bool b => cases b <;> exact begins_cons rfl (by decide)
  | int => exact begins_int _
  | string s => exact begins_cons rfl (by decide)
  | scalar h => exact h
  | array xs => exact begins_cons rfl (by decide)
  | object ms => exact begins_cons rfl (by decide)

end Rereads

/-! ### Sizes -/

lemma length_moreItems (xs : List Json) :
    xs.length < (moreItems xs).length ∧ ∀ x ∈ xs, (chars x).length < (moreItems xs).length := by
  induction xs with
  | nil => exact ⟨Nat.zero_lt_one, fun x hx => nomatch hx⟩
  | cons x xs ih =>
    have hlength : (moreItems (x :: xs)).length
        = (chars x).length + (moreItems xs).length + 1 := by
      rw [moreItems, itemChars_cons, List.length_cons, List.length_append]
      rintro ⟨⟩
    rw [hlength, List.length_cons]
    refine ⟨by omega, fun y hy => ?_⟩
    rcases List.mem_cons.mp hy with rfl | hy
    · omega
    · exact Nat.lt_succ_of_lt (Nat.lt_add_left _ (ih.2 y hy))

/-- A list takes at least one character for each of its items, and has room for each of them. -/
lemma length_array (xs : List Json) : xs.length < (chars (.array xs)).length
    ∧ ∀ x ∈ xs, (chars x).length < (chars (.array xs)).length := by
  have hle : (moreItems xs).length ≤ (chars (.array xs)).length := by
    cases xs with
    | nil => exact Nat.le_succ 1
    | cons x xs => exact Nat.le_refl _
  obtain ⟨hcount, hitems⟩ := length_moreItems xs
  exact ⟨Nat.lt_of_lt_of_le hcount hle, fun x hx => Nat.lt_of_lt_of_le (hitems x hx) hle⟩

lemma length_moreMembers (ms : List (String × Json)) : ms.length < (moreMembers ms).length
    ∧ ∀ m ∈ ms, (chars m.2).length < (moreMembers ms).length := by
  induction ms with
  | nil => exact ⟨Nat.zero_lt_one, fun m hm => nomatch hm⟩
  | cons m ms ih =>
    have hlength : (moreMembers (m :: ms)).length
        = (m.1.toList.flatMap escapeChar).length + (chars m.2).length
          + (moreMembers ms).length + 4 := by
      rw [moreMembers, memberChars_cons]
      · simp only [List.length_cons, List.length_append]
        omega
      · rintro ⟨⟩
    rw [hlength, List.length_cons]
    refine ⟨by omega, fun n hn => ?_⟩
    rcases List.mem_cons.mp hn with rfl | hn
    · omega
    · have := ih.2 n hn
      omega

lemma length_object (ms : List (String × Json)) : ms.length < (chars (.object ms)).length
    ∧ ∀ m ∈ ms, (chars m.2).length < (chars (.object ms)).length := by
  have hle : (moreMembers ms).length ≤ (chars (.object ms)).length := by
    cases ms with
    | nil => exact Nat.le_succ 1
    | cons m ms => exact Nat.le_refl _
  obtain ⟨hcount, hmembers⟩ := length_moreMembers ms
  exact ⟨Nat.lt_of_lt_of_le hcount hle, fun m hm => Nat.lt_of_lt_of_le (hmembers m hm) hle⟩

/-! ### Reading -/

lemma readValue_of_readsAs {text : List Char} {v : Json} (size depth : Nat)
    (h : ∀ nested, ReadsAs (readValueWith size nested) text v) :
    ReadsAs (readValue size depth) text v := by
  cases depth with
  | zero => exact h none
  | succ depth => exact h (some (readValue size depth))

lemma readValueWith_array {cs rest : List Char} {pos : Position} {c : Cursor} {ys : List Json}
    (h : readItems value size true ⟨cs ++ rest, pos.past '['⟩ = .ok (ys, c)) :
    readValueWith size (some value) ⟨'[' :: cs ++ rest, pos⟩ = .ok (.array ys, c) := by
  have hitems : readValueWith size (some value) ⟨'[' :: cs ++ rest, pos⟩
      = (readItems value size true ⟨cs ++ rest, pos.past '['⟩).map
          fun p => (.array p.1, p.2) := rfl
  rw [hitems, h]
  rfl

lemma readValueWith_object {cs rest : List Char} {pos : Position} {c : Cursor}
    {ms : List (String × Json)}
    (h : readMembers value size true [] ⟨cs ++ rest, pos.past '\x7b'⟩ = .ok (ms, c)) :
    readValueWith size (some value) ⟨'\x7b' :: cs ++ rest, pos⟩ = .ok (.object ms, c) := by
  have hmembers : readValueWith size (some value) ⟨'\x7b' :: cs ++ rest, pos⟩
      = (readMembers value size true [] ⟨cs ++ rest, pos.past '\x7b'⟩).map
          fun p => (.object p.1, p.2) := rfl
  rw [hmembers, h]
  rfl

/-- A value is read from what it is written as. -/
theorem Rereads.readValue {v w : Json} (h : Rereads depth v w)
    (hsize : (chars v).length ≤ size) : ReadsAs (readValue size depth) (chars v) w := by
  induction h with
  | null => exact readValue_of_readsAs _ _ fun nested rest pos _ => ⟨_, rfl⟩
  | bool b => cases b <;> exact readValue_of_readsAs _ _ fun nested rest pos _ => ⟨_, rfl⟩
  | int hlow hhigh => exact readValue_of_readsAs _ _ fun nested => readValueWith_int hlow hhigh
  | string s => exact readValue_of_readsAs _ _ fun nested => readValueWith_string s
  | scalar _ h => exact readValue_of_readsAs _ _ fun nested => h _ nested
  | array xs hxs ih =>
    intro rest pos _
    obtain ⟨hcount, hitems⟩ := length_array (xs.map (·.1))
    rw [List.length_map] at hcount
    have hfit : ∀ x ∈ xs, (chars x.1).length ≤ size := fun x hx =>
      Nat.le_of_lt (Nat.lt_of_lt_of_le (hitems _ (List.mem_map_of_mem hx)) hsize)
    obtain ⟨pos', hread⟩ := readItems_reads xs (fun x hx => (hxs x hx).begins)
      (fun x hx => ih x hx (hfit x hx)) (Nat.lt_of_lt_of_le hcount hsize) rest (pos.past '[')
    exact ⟨pos', readValueWith_array hread⟩
  | object ms hms ih =>
    intro rest pos _
    obtain ⟨hcount, hmembers⟩ := length_object (ms.map fun m => (m.1, m.2.1))
    rw [List.length_map] at hcount
    have hfit : ∀ m ∈ ms, (chars m.2.1).length ≤ size := fun m hm =>
      Nat.le_of_lt (Nat.lt_of_lt_of_le (hmembers (m.1, m.2.1) (List.mem_map_of_mem hm)) hsize)
    obtain ⟨pos', hread⟩ := readMembers_reads ms (fun m hm => ih m hm (hfit m hm))
      (Nat.lt_of_lt_of_le hcount hsize) rest (pos.past '\x7b')
    exact ⟨pos', readValueWith_object hread⟩

/-! ### Records -/

/-- What a record is read as, from what its members are read as. -/
lemma Rereads.record {ms ns : List (String × Option Json)}
    (h : List.Forall₂ (fun m n => m.1 = n.1 ∧ Option.Rel (Rereads depth) m.2 n.2) ms ns) :
    Rereads (depth + 1) (record ms) (.object (reread ns)) := by
  have hboth : ∃ ts : List (String × Json × Json), (∀ t ∈ ts, Rereads depth t.2.1 t.2.2)
      ∧ present ms = (ts.map fun t => (t.1, t.2.1))
      ∧ present ns = ts.map fun t => (t.1, t.2.2) := by
    induction h with
    | nil => exact ⟨[], List.forall_mem_nil _, rfl, rfl⟩
    | @cons m n ms ns hmn _ ih =>
      obtain ⟨key, o⟩ := m
      obtain ⟨key', o'⟩ := n
      obtain ⟨rfl, ho⟩ := hmn
      obtain ⟨ts, hts, hms, hns⟩ := ih
      cases ho with
      | none => exact ⟨ts, hts, hms, hns⟩
      | @some x y hxy =>
        exact ⟨(key, x, y) :: ts, List.forall_mem_cons.mpr ⟨hxy, hts⟩,
          congrArg (List.cons (key, x)) hms, congrArg (List.cons (key, y)) hns⟩
  obtain ⟨ts, hts, hms, hns⟩ := hboth
  change Rereads _ (.object (present ms)) _
  rw [reread, hms, hns]
  exact .object ts hts

lemma Rereads.arrayMap {α : Type} {f g : α → Json} (as : List α)
    (h : ∀ a ∈ as, Rereads depth (f a) (g a)) :
    Rereads (depth + 1) (.array (as.map f)) (.array (as.map g)) := by
  have hboth := Rereads.array (as.map fun a => (f a, g a)) (by simpa using h)
  rwa [List.map_map, List.map_map] at hboth

/-- A text is read as the value that it has been written from, but for the order of members. -/
theorem Rereads.parse {v w : Json} (h : Rereads depthLimit v w) : parse v.text = .ok w := by
  have hlength : v.text.length = (chars v).length := String.length_ofList
  obtain ⟨pos, hread⟩ := h.readValue (Nat.le_of_eq hlength.symm) [] .start endsNumber_nil
  rw [List.append_nil] at hread
  have htext : Cursor.ofString v.text = ⟨chars v, .start⟩ := by
    rw [Cursor.ofString, Json.text, String.toList_ofList]
  rw [Json.parse, htext, hread]
  rfl

end GroundLink.Json
