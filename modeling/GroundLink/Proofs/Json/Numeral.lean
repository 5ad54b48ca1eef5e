import GroundLink.Proofs.Json.Range
import GroundLink.Proofs.Json.Value

/-!
# Written decimals are read

A decimal in range is read in floating point from what it is written as, in any style that does not
write too many digits in front of the point. So is every finite number from its shortest form; a
number that is not finite is written as null.
-/

namespace GroundLink.Json

open Decimal

variable {negative : Bool} {significand : Nat} {scale : Int} {ds text : List Char} {a : Number}

/-! ### Exponents -/

/-- The digits of an exponent are read as its value, or are too many for 32 bits. -/
lemma exponentDigits_append (hds : ∀ c ∈ ds, c.isDigit = true) {rest : List Char}
    (hrest : EndsDigits rest) (pos : Position) {value : Nat}
    (hvalue : (value : Int) ≤ Int32.maxValue.toInt) :
    ((Nat.ofDigitChars 10 ds value : Int) ≤ Int32.maxValue.toInt
        ∧ ∃ pos', exponentDigits (ds ++ rest) pos value
          = (some (Nat.ofDigitChars 10 ds value), ⟨rest, pos'⟩))
      ∨ (¬ (Nat.ofDigitChars 10 ds value : Int) ≤ Int32.maxValue.toInt
        ∧ ∃ ds' pos', (∀ c ∈ ds', c.isDigit = true)
          ∧ exponentDigits (ds ++ rest) pos value = (none, ⟨ds' ++ rest, pos'⟩)) := by
  induction ds generalizing pos value with
  | nil =>
    refine .inl ⟨hvalue, pos, ?_⟩
    cases rest with
    | nil => rfl
    | cons c rest => exact if_neg (Bool.eq_false_iff.mp (hrest c rfl))
  | cons c ds ih =>
    obtain ⟨hc, hds⟩ := List.forall_mem_cons.mp hds
    simp only [List.cons_append, exponentDigits, if_pos hc]
    rw [Nat.ofDigitChars_cons, Nat.mul_comm 10]
    split
    case isTrue hnext => exact ih hds _ hnext
    case isFalse hlarge =>
      have hle := le_ofDigitChars ds (value * 10 + digitValue c)
      refine .inr ⟨fun h => hlarge ?_, ds, _, hds, rfl⟩
      exact le_trans (Int.ofNat_le.mpr hle) h

/-- What the digits of an exponent are read as behind the first one. -/
lemma exponentDigits_digitsOf {n : Nat} {d : Char} (hdigits : digitsOf n = d :: ds)
    {rest : List Char} (hrest : EndsDigits rest) (pos : Position) :
    ((n : Int) ≤ Int32.maxValue.toInt
        ∧ ∃ pos', exponentDigits (ds ++ rest) pos (digitValue d) = (some n, ⟨rest, pos'⟩))
      ∨ (¬ (n : Int) ≤ Int32.maxValue.toInt
        ∧ ∃ ds' pos', (∀ c ∈ ds', c.isDigit = true)
          ∧ exponentDigits (ds ++ rest) pos (digitValue d) = (none, ⟨ds' ++ rest, pos'⟩)) := by
  have hall := isDigit_digitsOf n
  have hn := ofDigitChars_digitsOf n
  rw [hdigits, Nat.ofDigitChars_cons, Nat.mul_zero, Nat.zero_add] at hn
  rw [hdigits] at hall
  obtain ⟨hd, hds⟩ := List.forall_mem_cons.mp hall
  have hfirst : (digitValue d : Int) ≤ Int32.maxValue.toInt := by
    have hmax : Int32.maxValue.toInt = 2 ^ 31 - 1 := rfl
    have hzero : '0'.toNat = 48 := rfl
    have hrange := toNat_of_isDigit hd
    rw [digitValue]
    omega
  have hread := exponentDigits_append hds hrest pos hfirst
  rwa [show Nat.ofDigitChars 10 ds (digitValue d) = n from hn] at hread

/-- Reads the digits of an exponent behind its sign. -/
def readPower (negative : Bool) (significand : Nat) (scale : Int) (down : Bool) :
    Option Nat × Cursor → Except SyntaxError (Number × Cursor)
  | (some e, c) => signed negative (ofParts significand (scale + if down then -(e : Int) else e)) c
  | (none, c) =>
    if significand ≠ 0 ∧ !down then .error ⟨.numberOutOfRange, c.pos⟩
    else signed negative (ofParts 0 0) (spanDigits c).2

lemma readExponent_sign {sign d : Char} {down : Bool}
    (hsign : sign = '+' ∧ down = false ∨ sign = '-' ∧ down = true) (hd : d.isDigit = true)
    (rest : List Char) (pos : Position) :
    readExponent negative significand scale ⟨sign :: d :: rest, pos⟩
      = readPower negative significand scale down
        (exponentDigits rest ((pos.past sign).past d) (digitValue d)) := by
  rcases hsign with ⟨rfl, rfl⟩ | ⟨rfl, rfl⟩
  all_goals
    change (if d.isDigit then _ else _) = _
    rw [if_pos hd]
    rfl

/-- An exponent behind its sign is read with the number in front of it, where that comes into range.
An exponent beyond 32 bits makes a number zero. -/
lemma readExponent_reads {sign : Char} {down : Bool}
    (hsign : sign = '+' ∧ down = false ∨ sign = '-' ∧ down = true) {n : Nat}
    (hn : down = false → (n : Int) ≤ Int32.maxValue.toInt)
    (h : (ofParts significand (scale + if down then -(n : Int) else n)).isSome) :
    ∃ x, ReadsAs (readExponent negative significand scale) (sign :: digitsOf n) (.float x) := by
  obtain ⟨v, hv⟩ := Option.isSome_iff_exists.mp h
  obtain ⟨d, ds, hdigits, hd⟩ := digitsOf_cons n
  have hread : ∀ rest pos, readExponent negative significand scale
      ⟨sign :: digitsOf n ++ rest, pos⟩ = readPower negative significand scale down
        (exponentDigits (ds ++ rest) ((pos.past sign).past d) (digitValue d)) := by
    intro rest pos
    rw [hdigits]
    exact readExponent_sign hsign hd _ _
  by_cases hfits : (n : Int) ≤ Int32.maxValue.toInt
  · refine ⟨toFloat negative (some v), fun rest pos hrest => ?_⟩
    obtain ⟨-, pos', hpower⟩ :=
      (exponentDigits_digitsOf hdigits hrest.endsDigits _).resolve_right fun h => h.1 hfits
    refine ⟨pos', ?_⟩
    rw [hread, hpower, readPower, hv]
    rfl
  · have hdown : down = true := by
      rw [← Bool.not_eq_false]
      exact fun hup => hfits (hn hup)
    refine ⟨toFloat negative (some ⟨0, double.lowest⟩), fun rest pos hrest => ?_⟩
    obtain ⟨-, ds', pos', hds', hpower⟩ :=
      (exponentDigits_digitsOf hdigits hrest.endsDigits _).resolve_left fun h => hfits h.1
    obtain ⟨pos'', hspan⟩ := spanDigits_append hds' hrest.endsDigits pos'
    refine ⟨pos'', ?_⟩
    rw [hread, hpower, readPower, hdown, if_neg (by simp), hspan]
    rfl

/-! ### Fractions -/

lemma readScale_end {v : Magnitude} (h : ofParts significand scale = some v) :
    ReadsAs (readScale negative significand scale) [] (.float (toFloat negative (some v))) := by
  intro rest pos hrest
  refine ⟨pos, ?_⟩
  simp only [List.nil_append, readScale]
  split
  case h_1 rest => exact absurd rfl (hrest 'e' rfl).2.2.1
  case h_2 rest => exact absurd rfl (hrest 'E' rfl).2.2.2
  case h_3 =>
    rw [h]
    rfl

lemma readScale_exponent (h : ReadsAs (readExponent negative significand scale) text a) :
    ReadsAs (readScale negative significand scale) ('e' :: text) a :=
  fun rest pos hrest => h rest (pos.past 'e') hrest

/-- The digits of a fraction are taken into the significand as far as that fits 64 bits. -/
lemma readFraction_reads (hds : ∀ c ∈ ds, c.isDigit = true) (hne : ds ≠ [])
    (hend : ∀ rest, EndsNumber rest → EndsDigits (text ++ rest))
    (h : ReadsAs (readScale negative (appendDigits significand ds).1
      (scale - (appendDigits significand ds).2)) text a) :
    ReadsAs (readFraction negative significand scale) (ds ++ text) a := by
  intro rest pos hrest
  obtain ⟨pos', hspan⟩ := spanDigits_append hds (hend rest hrest) pos
  obtain ⟨pos'', hread⟩ := h rest pos' hrest
  refine ⟨pos'', ?_⟩
  rw [List.append_assoc]
  simp only [readFraction, hspan]
  split
  case h_1 => exact absurd rfl hne
  case h_2 => exact absurd rfl hne
  case h_3 => exact hread

/-! ### Numbers -/

section Whole

variable (hds : ∀ c ∈ ds, c.isDigit = true) (hne : ds ≠ [])
  (hlead : ∀ d rest, ds ≠ '0' :: d :: rest) (hsize : Nat.ofDigitChars 10 ds 0 < UInt64.size)

include hds hne hlead hsize

lemma readNumber_point
    (h : ReadsAs (readFraction negative (Nat.ofDigitChars 10 ds 0) 0) text a) :
    ReadsAs (readNumber negative) (ds ++ '.' :: text) a := by
  intro rest pos hrest
  obtain ⟨pos₁, hwhole⟩ := @readNumber_append negative ds ('.' :: text ++ rest) hds hne hlead hsize
    (endsDigits_cons rfl) pos
  obtain ⟨pos₂, hread⟩ := h rest (pos₁.past '.') hrest
  refine ⟨pos₂, ?_⟩
  rw [List.append_assoc, hwhole]
  exact hread

lemma readNumber_exponent
    (h : ReadsAs (readExponent negative (Nat.ofDigitChars 10 ds 0) 0) text a) :
    ReadsAs (readNumber negative) (ds ++ 'e' :: text) a := by
  intro rest pos hrest
  obtain ⟨pos₁, hwhole⟩ := @readNumber_append negative ds ('e' :: text ++ rest) hds hne hlead hsize
    (endsDigits_cons rfl) pos
  obtain ⟨pos₂, hread⟩ := h rest (pos₁.past 'e') hrest
  refine ⟨pos₂, ?_⟩
  rw [List.append_assoc, hwhole]
  exact hread

end Whole

/-! ### Written decimals -/

lemma isDigit_zeros (n : Nat) : ∀ c ∈ List.replicate n '0', c.isDigit = true := by
  intro c hc
  rw [(List.mem_replicate.mp hc).2]
  rfl

/-- At most 19 digits fit 64 bits. -/
lemma ofDigitChars_lt_size (hds : ∀ c ∈ ds, c.isDigit = true) (hlength : ds.length ≤ 19) :
    Nat.ofDigitChars 10 ds 0 < UInt64.size := by
  have hpower : 10 ^ ds.length ≤ 10 ^ 19 := Nat.pow_le_pow_right (by decide) hlength
  have hlt := ofDigitChars_lt hds 0
  have hsize : 10 ^ 19 < UInt64.size := by decide
  omega

/-- A decimal without an exponent is in range. -/
lemma readNumber_positional {fs : List Char} (hds : ∀ c ∈ ds, c.isDigit = true) (hne : ds ≠ [])
    (hlead : ∀ d rest, ds ≠ '0' :: d :: rest) (hlength : ds.length ≤ 19)
    (hfs : ∀ c ∈ fs, c.isDigit = true) (hfsne : fs ≠ []) :
    ∃ x, ReadsAs (readNumber negative) (ds ++ '.' :: fs) (.float x) := by
  have hsize := ofDigitChars_lt_size hds hlength
  have hexponent : (0 : Int) - (appendDigits (Nat.ofDigitChars 10 ds 0) fs).2 ≤ 0 := by omega
  obtain ⟨v, hv⟩ := Option.isSome_iff_exists.mp
    (ofParts_isSome_of_nonpos (appendDigits_lt fs hsize) hexponent)
  have hfraction : ReadsAs (readFraction negative (Nat.ofDigitChars 10 ds 0) 0) (fs ++ []) _ :=
    readFraction_reads hfs hfsne (fun _ hrest => hrest.endsDigits) (readScale_end hv)
  rw [List.append_nil] at hfraction
  exact ⟨_, readNumber_point hds hne hlead hsize hfraction⟩

/-- The exponent of a leading digit is read with the number in front of it. -/
lemma readExponent_lead {lead : Int} (hlead : lead ≤ Int32.maxValue.toInt)
    (h : (ofParts significand (scale + lead)).isSome) :
    ∃ x, ReadsAs (readExponent negative significand scale)
      ((if lead < 0 then '-' else '+') :: digitsOf lead.natAbs) (.float x) := by
  split
  case isTrue hneg =>
    refine readExponent_reads (.inr ⟨rfl, rfl⟩) nofun ?_
    rw [if_pos rfl, show -(lead.natAbs : Int) = lead by omega]
    exact h
  case isFalse hpos =>
    have habs : (lead.natAbs : Int) = lead := by omega
    refine readExponent_reads (.inl ⟨rfl, rfl⟩) (fun _ => habs.symm ▸ hlead) ?_
    rw [if_neg Bool.false_ne_true, habs]
    exact h

/-- A decimal with an exponent is in range where its parts are. -/
lemma readNumber_scientific {s : Scientific} (hs : InRange s) (hzero : s.digits ≠ 0) {d : Char}
    {fs : List Char} (hdigits : digitsOf s.digits = d :: fs) :
    ∃ x, ReadsAs (readNumber negative)
      (d :: ((if fs = [] then [] else '.' :: fs)
        ++ 'e' :: (if s.exponent + (fs.length : Int) < 0 then '-' else '+')
          :: digitsOf (s.exponent + (fs.length : Int)).natAbs)) (.float x) := by
  have hall := isDigit_digitsOf s.digits
  rw [hdigits] at hall
  have hds : ∀ c ∈ [d], c.isDigit = true := List.forall_mem_singleton.mpr (hall d (.head _))
  have hfs := (List.forall_mem_cons.mp hall).2
  have hsize : Nat.ofDigitChars 10 [d] 0 < UInt64.size :=
    ofDigitChars_lt_size hds (by decide : 1 ≤ 19)
  have hvalue : Nat.ofDigitChars 10 fs (Nat.ofDigitChars 10 [d] 0) = s.digits := by
    rw [← ofDigitChars_digitsOf s.digits, hdigits, Nat.ofDigitChars_cons]
    rfl
  have hlead : s.exponent + (fs.length : Int) ≤ Int32.maxValue.toInt := by
    have h := hs.leading hzero
    rw [hdigits, List.length_cons] at h
    omega
  split
  case isTrue hnil =>
    subst hnil
    have hparts := hs.parts 0 (by rw [Nat.pow_zero, Nat.div_one, ← hvalue]; exact hsize)
      fun _ => rfl
    rw [Nat.pow_zero, Nat.div_one, ← hvalue] at hparts
    have hscale : (0 : Int) + (s.exponent + (([] : List Char).length : Int))
        = s.exponent + ((0 : Nat) : Int) := Int.zero_add _
    rw [← hscale] at hparts
    obtain ⟨x, hx⟩ := readExponent_lead hlead hparts
    exact ⟨x, readNumber_exponent hds nofun nofun hsize hx⟩
  case isFalse hne =>
    obtain ⟨hcount, hcut⟩ := appendDigits_div hfs (Nat.ofDigitChars 10 [d] 0)
    have htaken := appendDigits_lt fs hsize
    have hparts := hs.parts (fs.length - (appendDigits (Nat.ofDigitChars 10 [d] 0) fs).2)
      (by rwa [← hvalue, ← hcut]) fun hfits => by
        rw [appendDigits_eq (by rwa [hvalue]), Nat.sub_self]
    rw [← hvalue, ← hcut] at hparts
    have hscale : s.exponent
        + ((fs.length - (appendDigits (Nat.ofDigitChars 10 [d] 0) fs).2 : Nat) : Int)
        = 0 - ((appendDigits (Nat.ofDigitChars 10 [d] 0) fs).2 : Int)
          + (s.exponent + (fs.length : Int)) := by omega
    rw [hscale] at hparts
    obtain ⟨x, hx⟩ := readExponent_lead hlead hparts
    refine ⟨x, readNumber_point hds nofun nofun hsize ?_⟩
    exact readFraction_reads hfs hne (fun _ _ => endsDigits_cons rfl) (readScale_exponent hx)

/-- The digits of a number are read with the point behind them, between them or in front of them. -/
lemma readNumber_pointed {s : Scientific} (hzero : s.digits ≠ 0) {d : Char} {fs : List Char}
    (hdigits : digitsOf s.digits = d :: fs) {lead : Int} (hlead : lead = s.exponent + fs.length)
    (hgreatest : lead ≤ 18) :
    ∃ x, ReadsAs (readNumber negative)
      (if 0 ≤ s.exponent then d :: fs ++ List.replicate s.exponent.toNat '0' ++ ['.', '0']
        else if 0 ≤ lead then
          (d :: fs).take (lead.toNat + 1) ++ '.' :: (d :: fs).drop (lead.toNat + 1)
        else '0' :: '.' :: List.replicate (-lead - 1).toNat '0' ++ d :: fs) (.float x) := by
  have hall := isDigit_digitsOf s.digits
  rw [hdigits] at hall
  have hfirst : d ≠ '0' := fun heq => head?_digitsOf hzero (by rw [hdigits, heq]; rfl)
  have hnolead : ∀ rest c rest', d :: rest ≠ '0' :: c :: rest' := fun _ _ _ heq =>
    hfirst (List.cons.inj heq).1
  have hnull : ∀ c ∈ ['0'], c.isDigit = true := List.forall_mem_singleton.mpr rfl
  split_ifs with hwhole hpoint
  · -- a whole number, with zeros up to the point
    have hds := List.forall_mem_append.mpr ⟨hall, isDigit_zeros s.exponent.toNat⟩
    have hlength : (d :: fs ++ List.replicate s.exponent.toNat '0').length ≤ 19 := by
      rw [List.length_append, List.length_cons, List.length_replicate]
      omega
    exact readNumber_positional hds nofun (hnolead _) hlength hnull nofun
  · -- the point stands between the digits
    have hds : ∀ c ∈ (d :: fs).take (lead.toNat + 1), c.isDigit = true := fun c hc =>
      hall c (List.mem_of_mem_take hc)
    have hfraction : ∀ c ∈ (d :: fs).drop (lead.toNat + 1), c.isDigit = true := fun c hc =>
      hall c (List.mem_of_mem_drop hc)
    have hlength : ((d :: fs).take (lead.toNat + 1)).length ≤ 19 := by
      rw [List.length_take]
      omega
    have hne : (d :: fs).drop (lead.toNat + 1) ≠ [] := by
      rw [← List.length_pos_iff, List.length_drop, List.length_cons]
      omega
    exact readNumber_positional hds nofun (hnolead _) hlength hfraction hne
  · -- all digits stand behind the point
    have hfraction := List.forall_mem_append.mpr ⟨isDigit_zeros (-lead - 1).toNat, hall⟩
    exact @readNumber_positional negative ['0'] _ hnull nofun nofun (by decide) hfraction
      (List.append_ne_nil_of_right_ne_nil _ nofun)

/-- A decimal in range is read from what it is written as. -/
theorem reads_write {style : Style} (hstyle : style.greatest ≤ 18) {s : Scientific}
    (hs : InRange s) (negative : Bool) :
    ∃ x, ReadsAs (readNumber negative) (style.write s) (.float x) := by
  have hnull : ∀ c ∈ ['0'], c.isDigit = true := List.forall_mem_singleton.mpr rfl
  obtain ⟨d, fs, hdigits, -⟩ := digitsOf_cons s.digits
  have hlead : s.exponent + ((d :: fs).length : Int) - 1 = s.exponent + (fs.length : Int) := by
    rw [List.length_cons]
    omega
  have hfraction : (if (d :: fs).length = 1 then [] else '.' :: (d :: fs).drop 1)
      = if fs = [] then [] else '.' :: fs := by
    cases fs <;> rfl
  simp only [Style.write, hdigits, hlead, hfraction]
  split
  case isTrue => exact readNumber_positional hnull nofun nofun (by decide) hnull nofun
  case isFalse hzero =>
    split
    case isTrue hpositional => exact readNumber_pointed hzero hdigits rfl (by omega)
    case isFalse =>
      rw [List.append_assoc]
      exact readNumber_scientific hs hzero hdigits

/-! ### Written numbers -/

/-- What is read as a number begins with a digit. -/
lemma readNumber_begins {c c' : Cursor} {n : Number} (h : readNumber negative c = .ok (n, c')) :
    ∃ d cs, c.rest = d :: cs ∧ d.isDigit = true := by
  obtain ⟨text, pos⟩ := c
  cases text with
  | nil => cases h
  | cons d cs =>
    cases hd : d.isDigit with
    | true => exact ⟨d, cs, rfl, hd⟩
    | false =>
      have hspan : (spanDigits ⟨d :: cs, pos⟩).1 = [] :=
        List.takeWhile_cons_of_neg (Bool.eq_false_iff.mp hd)
      simp only [readNumber, hspan] at h
      cases h

/-- A decimal in range is read as a value, with its sign. -/
lemma reads_writeSigned {style : Style} (hstyle : style.greatest ≤ 18) {f : BinaryFormat}
    {v : Magnitude} (hv : InRange (f.shortest v)) (negative : Bool) :
    ∃ text y, style.writeSigned f (negative, some v) = some text ∧ Begins text
      ∧ ∀ size nested, ReadsAs (readValueWith size nested) text (.number (.float y)) := by
  obtain ⟨y, hy⟩ := reads_write hstyle hv negative
  cases negative with
  | true => exact ⟨_, y, rfl, begins_cons rfl (by decide), fun _ _ => readValueWith_minus hy⟩
  | false =>
    obtain ⟨pos', hread⟩ := hy [] .start endsNumber_nil
    obtain ⟨d, cs, hcons, hd⟩ := readNumber_begins hread
    rw [List.append_nil] at hcons
    change style.write (f.shortest v) = d :: cs at hcons
    refine ⟨style.write (f.shortest v), y, rfl, ?_, fun _ _ => ?_⟩
    · rw [hcons]
      exact begins_cons (isBlank_of_isDigit hd) (ne_of_isDigit hd rfl)
    · rw [hcons] at hy ⊢
      exact readValueWith_digit hd hy

section Floats

variable {n : Number} {style : Style} {f : BinaryFormat} {p : Bool × Option Magnitude}

/-- A finite number is read again as some number. -/
lemma rereads_written (hn : n.chars = (style.writeSigned f p).getD ['n', 'u', 'l', 'l'])
    (hstyle : style.greatest ≤ 18) (hrange : ∀ v, p.2 = some v → InRange (f.shortest v))
    (hp : p.2.isSome) (depth : Nat) :
    ∃ y, Rereads depth (.number n) (.number (.float y)) := by
  obtain ⟨negative, o⟩ := p
  obtain ⟨v, rfl⟩ := Option.isSome_iff_exists.mp hp
  obtain ⟨text, y, htext, hbegins, hreads⟩ := reads_writeSigned hstyle (hrange v rfl) negative
  rw [htext] at hn
  have hchars : chars (.number n) = text := hn
  exact ⟨y, .scalar (hchars ▸ hbegins) (hchars ▸ hreads)⟩

/-- A number that is not finite is read again as null. -/
lemma rereads_null (hn : n.chars = (style.writeSigned f p).getD ['n', 'u', 'l', 'l'])
    (hp : p.2 = none) (depth : Nat) : Rereads depth (.number n) .null := by
  obtain ⟨negative, o⟩ := p
  subst hp
  have hchars : chars (.number n) = ['n', 'u', 'l', 'l'] := hn
  refine .scalar (hchars ▸ begins_cons rfl (by decide)) fun size nested => ?_
  rw [hchars]
  exact fun rest pos _ => ⟨_, rfl⟩

theorem rereads_float {x : Float} (hx : (ofFloat x).2.isSome) (depth : Nat) :
    ∃ y, Rereads depth (.number (.float x)) (.number (.float y)) :=
  rereads_written rfl (by decide) (fun _ hv => shortest_inRange (has_of_ofFloat hv)) hx depth

theorem rereads_single {x : Float32} (hx : (ofFloat32 x).2.isSome) (depth : Nat) :
    ∃ y, Rereads depth (.number (.single x)) (.number (.float y)) :=
  rereads_written rfl (by decide) (fun _ hv => shortest_inRange32 (has_of_ofFloat32 hv)) hx depth

theorem rereads_single_null {x : Float32} (hx : (ofFloat32 x).2 = none) (depth : Nat) :
    Rereads depth (.number (.single x)) .null :=
  rereads_null rfl hx depth

end Floats

end GroundLink.Json
