import GroundLink.Url.Percent
import Mathlib.Tactic.Lemma

/-!
# Percent-encoding and back

What is written with escapes is not escaped again, and stands for the same bytes as before.
-/

namespace GroundLink.Url

open Text (hexValue?)

variable {escapes : Char → Bool} {c : Char} {cs : List Char}

/-! ### Characters -/

/-- The characters of a text are tried out one by one. -/
instance decidableForallMem (cs : List Char) (p : Char → Prop) [DecidablePred p] :
    Decidable (∀ c ∈ cs, p c) :=
  List.decidableBAll p cs

/-- What holds of all ASCII characters can be tried out. -/
lemma forall_ascii {p : Char → Prop} (h : ∀ n < 128, p (Char.ofNat n)) (hc : c.toNat < 128) :
    p c := by
  rw [← Char.ofNat_toNat c]
  exact h c.toNat hc

/-- The code points of capitals, small letters and digits. -/
lemma isAlphanum_iff : c.isAlphanum = true ↔ (65 ≤ c.toNat ∧ c.toNat ≤ 90)
    ∨ (97 ≤ c.toNat ∧ c.toNat ≤ 122) ∨ (48 ≤ c.toNat ∧ c.toNat ≤ 57) := by
  delta Char.isAlphanum Char.isAlpha Char.isUpper Char.isLower Char.isDigit
  simp [UInt32.le_iff_toNat_le, or_assoc]

lemma toNat_lt_of_isAlphanum (hc : c.isAlphanum = true) : c.toNat < 128 := by
  have hrange := isAlphanum_iff.mp hc
  omega

lemma hexValue?_hexDigit {n : Nat} (hn : n < 16) : hexValue? (hexDigit n) = some n := by
  revert n
  decide

lemma isAlphanum_hexDigit {n : Nat} (hn : n < 16) : (hexDigit n).isAlphanum = true := by
  revert n
  decide

lemma isAlphanum_of_hexValue? {n : Nat} (hc : hexValue? c = some n) : c.isAlphanum = true := by
  simp only [hexValue?, Char.isDigit, Char.le_def, UInt32.le_iff_toNat_le, Bool.and_eq_true,
    decide_eq_true_eq, ge_iff_le] at hc
  have hval : c.toNat = c.val.toNat := rfl
  have hA : 'A'.val.toNat = 65 ∧ 'F'.val.toNat = 70 := ⟨rfl, rfl⟩
  have ha : 'a'.val.toNat = 97 ∧ 'f'.val.toNat = 102 := ⟨rfl, rfl⟩
  have hzero : '0'.val.toNat = 48 ∧ '9'.val.toNat = 57 := ⟨rfl, rfl⟩
  rw [isAlphanum_iff]
  split at hc
  · omega
  · split at hc
    · omega
    · split at hc
      · omega
      · cases hc

/-- A character is its own small letter or the capital of it. -/
lemma eq_toLower_or (c : Char) : c = c.toLower ∨ c = c.toLower.toUpper := by
  by_cases hc : c.val ≥ 'A'.val ∧ c.val ≤ 'Z'.val
  · have hrange : c.toNat ≤ 'Z'.toNat := UInt32.le_iff_toNat_le.mp hc.2
    exact forall_ascii (p := fun c => c = c.toLower ∨ c = c.toLower.toUpper) (by decide +kernel)
      (Nat.lt_of_le_of_lt hrange (by decide))
  · delta Char.toLower
    rw [dif_neg hc]
    exact .inl rfl

/-- All texts that differ from one in small letters in their case only. -/
def spellings : List Char → List (List Char)
  | [] => [[]]
  | c :: cs => (spellings cs).flatMap fun s => [c :: s, c.toUpper :: s]

lemma mem_spellings (cs : List Char) : cs ∈ spellings (cs.map Char.toLower) := by
  induction cs with
  | nil => exact List.mem_singleton_self _
  | cons c cs ih =>
    refine List.mem_flatMap.mpr ⟨cs, ih, ?_⟩
    rw [List.mem_cons, List.mem_singleton, List.cons_eq_cons, List.cons_eq_cons]
    exact (eq_toLower_or c).imp (⟨·, rfl⟩) (⟨·, rfl⟩)

/-! ### Encoding -/

/-- Escapes that leave letters and digits alone, and the percent sign of an escape. -/
structure Sparing (escapes : Char → Bool) : Prop where
  percent : escapes '%' = false
  alphanum : ∀ c : Char, c.isAlphanum = true → escapes c = false

lemma Sparing.of_ascii (hpercent : escapes '%' = false)
    (h : ∀ n < 128, (Char.ofNat n).isAlphanum = true → escapes (Char.ofNat n) = false) :
    Sparing escapes :=
  ⟨hpercent, fun _ hc =>
    forall_ascii (p := fun c => c.isAlphanum = true → escapes c = false) h
      (toNat_lt_of_isAlphanum hc) hc⟩

lemma sparing_userinfo : Sparing escapesUserinfo := .of_ascii rfl (by decide +kernel)

lemma sparing_path : Sparing escapesPath := .of_ascii rfl (by decide +kernel)

lemma sparing_fragment : Sparing escapesFragment := .of_ascii rfl (by decide +kernel)

/-- An escape consists of percent signs, letters and digits. -/
lemma mem_escapeChar {d : Char} (hd : d ∈ escapeChar c) : d = '%' ∨ d.isAlphanum = true := by
  obtain ⟨b, -, hb⟩ := List.mem_flatMap.mp hd
  have hbyte := b.toNat_lt
  simp only [escapeByte, List.mem_cons, List.not_mem_nil, or_false] at hb
  rcases hb with rfl | rfl | rfl
  · exact .inl rfl
  · exact .inr (isAlphanum_hexDigit (by omega))
  · exact .inr (isAlphanum_hexDigit (Nat.mod_lt _ (by decide)))

lemma escapeChar_cons (c : Char) : ∃ ds, escapeChar c = '%' :: ds := by
  have hlen := String.length_utf8EncodeChar c
  have hpos := c.utf8Size_pos
  cases hb : String.utf8EncodeChar c with
  | nil =>
    rw [hb, List.length_nil] at hlen
    omega
  | cons b bs =>
    rw [escapeChar, hb]
    exact ⟨_, rfl⟩

@[simp] lemma encode_cons (escapes : Char → Bool) (c : Char) (cs : List Char) :
    encode escapes (c :: cs) = (if escapes c then escapeChar c else [c]) ++ encode escapes cs := rfl

/-- What has been escaped holds nothing that is to be escaped. -/
lemma Sparing.not_escapes (hs : Sparing escapes) (hc : c ∈ encode escapes cs) :
    escapes c = false := by
  obtain ⟨d, -, hd⟩ := List.mem_flatMap.mp hc
  split at hd
  case isTrue =>
    rcases mem_escapeChar hd with rfl | hc
    · exact hs.percent
    · exact hs.alphanum c hc
  case isFalse hno =>
    obtain rfl := List.mem_singleton.mp hd
    exact Bool.eq_false_iff.mpr hno

/-! ### What is not escaped -/

lemma toNat_lt_of_control (hc : escapesControl c = false) : c.toNat < 128 := by
  simp only [escapesControl, Bool.or_eq_false_iff, decide_eq_false_iff_not, Char.not_lt,
    Char.le_def, UInt32.le_iff_toNat_le] at hc
  have htilde : '~'.val.toNat = 126 := rfl
  have hval : c.toNat = c.val.toNat := rfl
  omega

lemma control_of_fragment (hc : escapesFragment c = false) : escapesControl c = false :=
  (Bool.or_eq_false_iff.mp hc).1

lemma control_of_path (hc : escapesPath c = false) : escapesControl c = false :=
  control_of_fragment (Bool.or_eq_false_iff.mp hc).1

lemma control_of_userinfo (hc : escapesUserinfo c = false) : escapesControl c = false :=
  control_of_path (Bool.or_eq_false_iff.mp hc).1

lemma control_of_specialQuery (hc : escapesSpecialQuery c = false) : escapesControl c = false :=
  (Bool.or_eq_false_iff.mp (Bool.or_eq_false_iff.mp hc).1).1

/-! ### Decoding -/

lemma decode_cons_of_ne (hc : c ≠ '%') (cs : List Char) :
    decode (c :: cs) = String.utf8EncodeChar c ++ decode cs := by
  rw [decode]
  · rintro a b rest rfl -
    exact hc rfl

/-- A percent sign stands for itself where no two digits are behind it. -/
lemma decode_percent
    (h : ∀ a b rest, cs = a :: b :: rest → hexValue? a = none ∨ hexValue? b = none) :
    decode ('%' :: cs) = '%'.toUInt8 :: decode cs := by
  match cs, h with
  | [], _ => rfl
  | [a], _ => rfl
  | a :: b :: rest, h =>
    rw [decode]
    rcases h a b rest rfl with h | h <;> rw [h]
    cases hexValue? a <;> rfl

lemma decode_escapeByte (b : UInt8) (cs : List Char) :
    decode (escapeByte b ++ cs) = b :: decode cs := by
  have hbyte := b.toNat_lt
  rw [escapeByte, List.cons_append, List.cons_append, List.cons_append, List.nil_append, decode,
    hexValue?_hexDigit (by omega), hexValue?_hexDigit (Nat.mod_lt _ (by decide))]
  dsimp only
  rw [Nat.div_add_mod, UInt8.ofNat_toNat]

lemma decode_escapeChar (c : Char) (cs : List Char) :
    decode (escapeChar c ++ cs) = String.utf8EncodeChar c ++ decode cs := by
  rw [escapeChar]
  induction String.utf8EncodeChar c with
  | nil => rfl
  | cons b bs ih =>
    rw [List.flatMap_cons, List.append_assoc, decode_escapeByte, ih, List.cons_append]

/-- What is no digit is none when it has been escaped either. -/
lemma hexValue?_of_encode {d : Char} {ds : List Char} (hc : hexValue? c = none)
    (heq : encode escapes (c :: cs) = d :: ds) : hexValue? d = none := by
  rw [encode_cons] at heq
  split at heq
  case isTrue =>
    obtain ⟨es, hes⟩ := escapeChar_cons c
    rw [hes, List.cons_append, List.cons_eq_cons] at heq
    rw [← heq.1]
    rfl
  case isFalse =>
    rw [List.singleton_append, List.cons_eq_cons] at heq
    rwa [← heq.1]

/-- Escapes do not change what a text stands for. -/
lemma Sparing.decode_encode (hs : Sparing escapes) (cs : List Char) :
    decode (encode escapes cs) = decode cs := by
  have hdigit : ∀ {a n} (as : List Char), hexValue? a = some n →
      encode escapes (a :: as) = a :: encode escapes as := by
    intro a n as ha
    rw [encode_cons, if_neg (Bool.eq_false_iff.mp (hs.alphanum a (isAlphanum_of_hexValue? ha))),
      List.singleton_append]
  have hpercent : ∀ as, encode escapes ('%' :: as) = '%' :: encode escapes as := by
    intro as
    rw [encode_cons, if_neg (Bool.eq_false_iff.mp hs.percent), List.singleton_append]
  fun_induction decode cs with
  | case1 => rfl
  | case2 a b rest x y hb ha ih =>
    rw [hpercent, hdigit _ ha, hdigit _ hb, decode, ha, hb]
    dsimp only
    rw [ih]
  | case3 a b rest hno ih =>
    rw [hpercent, decode_percent, ih]
    intro a' b' rest' heq
    cases ha : hexValue? a with
    | none => exact .inl (hexValue?_of_encode ha heq)
    | some x =>
      have hb : hexValue? b = none := by
        cases hb : hexValue? b with
        | none => rfl
        | some y => exact (hno x y ha hb).elim
      rw [hdigit _ ha, List.cons_eq_cons] at heq
      exact .inr (hexValue?_of_encode hb heq.2)
  | case4 c rest hshort ih =>
    by_cases hc : c = '%'
    · subst hc
      rw [hpercent, decode_percent, ih]
      · rfl
      · intro a b ds heq
        match rest, hshort with
        | [], _ => cases heq
        | [a'], _ =>
          cases ha : hexValue? a' with
          | none => exact .inl (hexValue?_of_encode ha heq)
          | some x =>
            rw [hdigit _ ha] at heq
            cases heq
        | a' :: b' :: rest, hshort => exact (hshort a' b' rest rfl rfl).elim
    · rw [encode_cons]
      split
      · rw [decode_escapeChar, ih]
      · rw [List.singleton_append, decode_cons_of_ne hc, ih]

/-- A text without percent signs stands for itself. -/
lemma decode_eq_utf8 (h : '%' ∉ cs) : decode cs = cs.flatMap String.utf8EncodeChar := by
  induction cs with
  | nil => rfl
  | cons c cs ih =>
    rw [List.mem_cons, not_or] at h
    rw [decode_cons_of_ne (Ne.symm h.1), ih h.2, List.flatMap_cons]

/-- Bytes that are a text are read as it. -/
lemma utf8?_utf8 (cs : List Char) :
    utf8? (cs.flatMap String.utf8EncodeChar) = some (String.ofList cs) := by
  have hbytes : (⟨(cs.flatMap String.utf8EncodeChar).toArray⟩ : ByteArray) = cs.utf8Encode := by
    ext1
    simp [List.utf8Encode]
  rw [utf8?, hbytes, String.fromUTF8?, dif_pos ⟨cs, rfl⟩]
  rfl

end GroundLink.Url
