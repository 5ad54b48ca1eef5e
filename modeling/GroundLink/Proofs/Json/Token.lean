import GroundLink.Json.Parser
import GroundLink.Json.Printer
import GroundLink.Proofs.Decimal.Digits

/-!
# Numbers and strings that are read again

An integer of 64 bits and any string are read as they are written. A number ends where neither a
digit nor a point nor an exponent follows; nothing of a string can be taken for its end, because the
quotes inside it are escaped.
-/

namespace GroundLink.Json

open Decimal

variable {α β : Type}

/-- Whether a number ends where some text follows it. -/
def EndsNumber (rest : List Char) : Prop :=
  ∀ c ∈ rest.head?, c.isDigit = false ∧ c ≠ '.' ∧ c ≠ 'e' ∧ c ≠ 'E'

/-- A text is read as a value, up to its end and no further. -/
def ReadsAs (read : Cursor → Except SyntaxError (α × Cursor)) (text : List Char) (a : α) : Prop :=
  ∀ rest pos, EndsNumber rest → ∃ pos', read ⟨text ++ rest, pos⟩ = .ok (a, ⟨rest, pos'⟩)

lemma endsNumber_nil : EndsNumber [] := by simp [EndsNumber]

lemma endsNumber_cons {c : Char} {rest : List Char}
    (h : c.isDigit = false ∧ c ≠ '.' ∧ c ≠ 'e' ∧ c ≠ 'E') : EndsNumber (c :: rest) := by
  intro d hd
  obtain rfl := Option.some.inj hd
  exact h

/-! ### Digits -/

lemma skipWhile_append {p : Char → Bool} {cs rest : List Char} (hcs : ∀ c ∈ cs, p c = true)
    (hrest : ∀ c ∈ rest.head?, p c = false) (pos : Position) :
    ∃ pos', Cursor.skipWhile p (cs ++ rest) pos = ⟨rest, pos'⟩ := by
  induction cs generalizing pos with
  | nil =>
    cases rest with
    | nil => exact ⟨pos, rfl⟩
    | cons c rest => exact ⟨pos, if_neg (Bool.eq_false_iff.mp (hrest c rfl))⟩
  | cons c cs ih =>
    obtain ⟨pos', h⟩ := ih (fun d hd => hcs d (.tail _ hd)) (pos.past c)
    exact ⟨pos', (if_pos (hcs c (.head _))).trans h⟩

/-- Whether digits end where some text follows them. -/
def EndsDigits (rest : List Char) : Prop := ∀ c ∈ rest.head?, c.isDigit = false

lemma EndsNumber.endsDigits {rest : List Char} (h : EndsNumber rest) : EndsDigits rest :=
  fun c hc => (h c hc).1

lemma endsDigits_cons {c : Char} {rest : List Char} (hc : c.isDigit = false) :
    EndsDigits (c :: rest) := by
  intro d hd
  obtain rfl := Option.some.inj hd
  exact hc

lemma spanDigits_append {ds rest : List Char} (hds : ∀ c ∈ ds, c.isDigit = true)
    (hstop : EndsDigits rest) (pos : Position) :
    ∃ pos', spanDigits ⟨ds ++ rest, pos⟩ = (ds, ⟨rest, pos'⟩) := by
  obtain ⟨pos', h⟩ := skipWhile_append hds hstop pos
  have htake : rest.takeWhile Char.isDigit = [] := by
    cases rest with
    | nil => rfl
    | cons c rest => exact List.takeWhile_cons_of_neg (Bool.eq_false_iff.mp (hstop c rfl))
  refine ⟨pos', ?_⟩
  rw [spanDigits, h, List.takeWhile_append_of_pos hds, htake, List.append_nil]

/-- Digits whose number fits 64 bits are all taken. -/
lemma appendDigits_eq {ds : List Char} {n : Nat}
    (h : Nat.ofDigitChars 10 ds n < UInt64.size) :
    appendDigits n ds = (Nat.ofDigitChars 10 ds n, ds.length) := by
  induction ds generalizing n with
  | nil => rfl
  | cons c ds ih =>
    rw [Nat.ofDigitChars_cons, Nat.mul_comm] at h
    have hnext : n * 10 + digitValue c < UInt64.size :=
      Nat.lt_of_le_of_lt (le_ofDigitChars ds _) h
    have hrest : appendDigits (n * 10 + digitValue c) ds = (_, ds.length) := ih h
    simp only [appendDigits, if_pos hnext, hrest]
    rw [Nat.ofDigitChars_cons, Nat.mul_comm 10]
    rfl

lemma appendDigits_lt {n : Nat} (ds : List Char) (hn : n < UInt64.size) :
    (appendDigits n ds).1 < UInt64.size := by
  induction ds generalizing n with
  | nil => exact hn
  | cons d ds ih =>
    simp only [appendDigits]
    split
    case isTrue hnext => exact ih hnext
    case isFalse => exact hn

/-- Digits that are all taken make their number. -/
lemma appendDigits_all {n : Nat} {ds : List Char} (h : (appendDigits n ds).2 = ds.length) :
    (appendDigits n ds).1 = Nat.ofDigitChars 10 ds n := by
  induction ds generalizing n with
  | nil => rfl
  | cons d ds ih =>
    simp only [appendDigits] at h ⊢
    split at h
    case isTrue hnext =>
      rw [if_pos hnext, Nat.ofDigitChars_cons, Nat.mul_comm 10]
      exact ih (Nat.succ.inj h)
    case isFalse => cases h

/-- Where digits are not all taken, the others are cut off their number. -/
lemma appendDigits_div {ds : List Char} (hds : ∀ c ∈ ds, c.isDigit = true) (n : Nat) :
    (appendDigits n ds).2 ≤ ds.length
      ∧ (appendDigits n ds).1
        = Nat.ofDigitChars 10 ds n / 10 ^ (ds.length - (appendDigits n ds).2) := by
  induction ds generalizing n with
  | nil => exact ⟨Nat.le_refl _, (Nat.div_one n).symm⟩
  | cons d ds ih =>
    simp only [appendDigits]
    split
    case isTrue =>
      obtain ⟨hle, heq⟩ := ih (List.forall_mem_cons.mp hds).2 (n * 10 + digitValue d)
      refine ⟨Nat.succ_le_succ hle, ?_⟩
      rw [Nat.ofDigitChars_cons, Nat.mul_comm 10, List.length_cons, Nat.add_sub_add_right]
      exact heq
    case isFalse => exact ⟨Nat.zero_le _, (ofDigitChars_div hds n).symm⟩

/-! ### Numbers -/

/-- Reads what follows the digits of an integer. -/
def readBehind (negative : Bool) (n : Nat) (c : Cursor) : Except SyntaxError (Number × Cursor) :=
  match c.rest with
  | '.' :: _ => readFraction negative n 0 c.advance
  | 'e' :: _ | 'E' :: _ => readExponent negative n 0 c.advance
  | _ => .ok (integer negative n, c)

/-- A number whose digits fit 64 bits is read on behind them. -/
lemma readNumber_append (negative : Bool) {ds rest : List Char}
    (hds : ∀ c ∈ ds, c.isDigit = true) (hne : ds ≠ []) (hlead : ∀ d rest, ds ≠ '0' :: d :: rest)
    (hsize : Nat.ofDigitChars 10 ds 0 < UInt64.size) (hrest : EndsDigits rest) (pos : Position) :
    ∃ pos', readNumber negative ⟨ds ++ rest, pos⟩
      = readBehind negative (Nat.ofDigitChars 10 ds 0) ⟨rest, pos'⟩ := by
  obtain ⟨pos', h⟩ := spanDigits_append hds hrest pos
  refine ⟨pos', ?_⟩
  simp only [readNumber, h, appendDigits_eq hsize]
  split
  case h_1 hnil => exact absurd rfl hne
  case h_2 hnil => exact absurd rfl hne
  case h_3 d ds => exact absurd rfl (hlead d ds)
  case h_4 =>
    simp only [Nat.sub_self, if_true]
    rfl

lemma readNumber_digits (negative : Bool) {ds : List Char} (hds : ∀ c ∈ ds, c.isDigit = true)
    (hne : ds ≠ []) (hlead : ∀ d rest, ds ≠ '0' :: d :: rest)
    (hsize : Nat.ofDigitChars 10 ds 0 < UInt64.size) :
    ReadsAs (readNumber negative) ds (integer negative (Nat.ofDigitChars 10 ds 0)) := by
  intro rest pos hrest
  obtain ⟨pos', h⟩ := readNumber_append negative hds hne hlead hsize hrest.endsDigits pos
  refine ⟨pos', h.trans ?_⟩
  simp only [readBehind]
  split
  case h_1 rest => exact absurd rfl (hrest '.' rfl).2.1
  case h_2 rest => exact absurd rfl (hrest 'e' rfl).2.2.1
  case h_3 rest => exact absurd rfl (hrest 'E' rfl).2.2.2
  case h_4 => rfl

lemma readNumber_digitsOf (negative : Bool) {n : Nat} (hn : n < UInt64.size) :
    ReadsAs (readNumber negative) (digitsOf n) (integer negative n) := by
  have hvalue := ofDigitChars_digitsOf n
  have hreads := readNumber_digits negative (isDigit_digitsOf n) (digitsOf_ne_nil n)
    (digitsOf_ne_zero_cons n) (hvalue.symm ▸ hn)
  rwa [hvalue] at hreads

/-! ### Strings -/

lemma hexValue?_hexDigit {n : Nat} (hn : n < 16) : Text.hexValue? (hexDigit n) = some n := by
  revert n
  decide

lemma utf8Size_hexDigit {n : Nat} (hn : n < 16) : (hexDigit n).utf8Size = 1 := by
  revert n
  decide

/-- A digit of a hexadecimal escape is read, unless it is the last one. -/
lemma stringBody_hexDigit {n : Nat} (hn : n < 16) {bytes : Nat} (hbytes : bytes < 3)
    (rest : List Char) (pos : Position) (value : Nat) (seen : List Char) :
    stringBody (hexDigit n :: rest) pos (.hex none (some value) bytes) seen
      = stringBody rest (pos.past (hexDigit n)) (.hex none (some (value * 16 + n)) (bytes + 1))
        seen := by
  have htotal : bytes + 1 < 4 := by omega
  simp [stringBody, hexValue?_hexDigit hn, utf8Size_hexDigit hn, htotal]

lemma stringBody_lastDigit {n : Nat} (hn : n < 16) {value : Nat} {c : Char}
    (hclose : closeHex none (value * 16 + n) = .ok (.inl c)) (rest : List Char) (pos : Position)
    (seen : List Char) :
    stringBody (hexDigit n :: rest) pos (.hex none (some value) 3) seen
      = stringBody rest (pos.past (hexDigit n)) .plain (c :: seen) := by
  simp [stringBody, hexValue?_hexDigit hn, utf8Size_hexDigit hn, hclose]

/-- Four hexadecimal digits stand for a control character. -/
lemma stringBody_control {c : Char} (hc : c < ' ') (rest : List Char) (pos : Position)
    (seen : List Char) :
    ∃ pos', stringBody ('\\' :: 'u' :: hexDigit 0 :: hexDigit 0 :: hexDigit (c.toNat / 16)
      :: hexDigit (c.toNat % 16) :: rest) pos .plain seen
        = stringBody rest pos' .plain (c :: seen) := by
  have hsmall : c.toNat < 32 := hc
  have hvalue : ((0 * 16 + 0) * 16 + 0) * 16 + c.toNat / 16 = c.toNat / 16 := by omega
  have hclose : closeHex none (c.toNat / 16 * 16 + c.toNat % 16) = .ok (.inl c) := by
    rw [Nat.div_add_mod', closeHex, if_neg (by omega), if_neg (by omega), Char.ofNat_toNat]
  have hbegin : ∀ rest, stringBody ('\\' :: 'u' :: rest) pos .plain seen
      = stringBody rest ((pos.past '\\').past 'u') (.hex none (some 0) 0) seen := fun _ => rfl
  rw [hbegin, stringBody_hexDigit (by decide) (by decide),
    stringBody_hexDigit (by decide) (by decide), stringBody_hexDigit (by omega) (by decide),
    stringBody_lastDigit (by omega) (by rwa [hvalue])]
  exact ⟨_, rfl⟩

/-- A character is read as it is written. -/
lemma stringBody_escapeChar (c : Char) (rest : List Char) (pos : Position) (seen : List Char) :
    ∃ pos', stringBody (escapeChar c ++ rest) pos .plain seen
      = stringBody rest pos' .plain (c :: seen) := by
  rw [escapeChar]
  split_ifs with hquote hslash hback htab hline hfeed hreturn hcontrol
  case pos => subst hquote; exact ⟨_, rfl⟩
  case pos => subst hslash; exact ⟨_, rfl⟩
  case pos => subst hback; exact ⟨_, rfl⟩
  case pos => subst htab; exact ⟨_, rfl⟩
  case pos => subst hline; exact ⟨_, rfl⟩
  case pos => subst hfeed; exact ⟨_, rfl⟩
  case pos => subst hreturn; exact ⟨_, rfl⟩
  case pos => exact stringBody_control hcontrol rest pos seen
  case neg =>
    refine ⟨pos.past c, ?_⟩
    rw [List.singleton_append, stringBody, if_neg hquote, if_neg hslash, if_neg hcontrol]

lemma stringBody_append (cs rest : List Char) (pos : Position) (seen : List Char) :
    ∃ pos', stringBody (cs.flatMap escapeChar ++ rest) pos .plain seen
      = stringBody rest pos' .plain (cs.reverse ++ seen) := by
  induction cs generalizing pos seen with
  | nil => exact ⟨pos, rfl⟩
  | cons c cs ih =>
    obtain ⟨pos₁, h₁⟩ := stringBody_escapeChar c (cs.flatMap escapeChar ++ rest) pos seen
    obtain ⟨pos₂, h₂⟩ := ih pos₁ (c :: seen)
    refine ⟨pos₂, ?_⟩
    rw [List.flatMap_cons, List.append_assoc, h₁, h₂, List.reverse_cons, List.append_assoc]
    rfl

/-- The body of a string is read as the string, up to its closing quote. -/
theorem stringBody_eq (s : String) (rest : List Char) (pos : Position) :
    ∃ pos', stringBody (s.toList.flatMap escapeChar ++ '"' :: rest) pos .plain []
      = .ok (s, ⟨rest, pos'⟩) := by
  obtain ⟨pos', h⟩ := stringBody_append s.toList ('"' :: rest) pos []
  refine ⟨pos'.past '"', ?_⟩
  rw [h, List.append_nil, stringBody, if_pos rfl, List.reverse_reverse, String.ofList_toList]

end GroundLink.Json
