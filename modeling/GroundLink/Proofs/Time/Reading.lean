import GroundLink.Proofs.Result
import GroundLink.Proofs.Text.Integer
import GroundLink.Proofs.Time.Calendar
import GroundLink.Time.Reading

/-!
# Instants that are read again

An instant that has been read lies among the days that dates are kept for, and is a leap second only
behind the last second of a minute. Such an instant is read from its own text.
-/

namespace GroundLink.Time

variable {ds rest : List Char} {n width : Nat}

/-! ### Digits -/

/-- A text goes on with something else than a digit. -/
def EndsDigits (rest : List Char) : Prop := ∀ c ∈ rest.head?, c.isDigit = false

lemma endsDigits_nil : EndsDigits [] := nofun

lemma endsDigits_cons {c : Char} (h : c.isDigit = false) : EndsDigits (c :: rest) := by
  intro d hd
  obtain rfl := Option.some.inj hd
  exact h

lemma dropBlanks_digits (hds : ∀ c ∈ ds, c.isDigit = true) (hne : ds ≠ []) :
    Text.dropBlanks (ds ++ rest) = ds ++ rest := by
  obtain ⟨c, ds, rfl⟩ := List.exists_cons_of_ne_nil hne
  have hblank := Text.isBlank_of_isDigit (hds c (.head _))
  exact List.dropWhile_cons_of_neg (Bool.eq_false_iff.mp hblank)

/-- Digits are read up to their end, or as many of them as are asked for. -/
lemma readDigits_append (hds : ∀ c ∈ ds, c.isDigit = true) (hlength : ds.length ≤ width)
    (hrest : ds.length = width ∨ EndsDigits rest) (value : Nat) :
    readDigits width (ds ++ rest) value = (Nat.ofDigitChars 10 ds value, rest) := by
  induction ds generalizing width value with
  | nil =>
    cases width with
    | zero => rfl
    | succ width =>
      cases rest with
      | nil => rfl
      | cons c rest =>
        have hend : EndsDigits (c :: rest) := hrest.resolve_left nofun
        exact if_neg (Bool.eq_false_iff.mp (hend c rfl))
  | cons c ds ih =>
    cases width with
    | zero => cases hlength
    | succ width =>
      have hmore := ih (fun d hd => hds d (.tail _ hd)) (Nat.le_of_succ_le_succ hlength)
        (hrest.imp_left Nat.succ.inj) (value * 10 + (c.toNat - '0'.toNat))
      rw [List.cons_append, readDigits, if_pos (hds c (.head _)), hmore, Nat.ofDigitChars_cons,
        Nat.mul_comm]

lemma readNumber_append (hds : ∀ c ∈ ds, c.isDigit = true) (hne : ds ≠ [])
    (hlength : ds.length ≤ width) (hrest : ds.length = width ∨ EndsDigits rest)
    (hsize : (Nat.ofDigitChars 10 ds 0 : Int) ≤ Int64.maxValue.toInt) :
    readNumber width (ds ++ rest) = .ok (Nat.ofDigitChars 10 ds 0, rest) := by
  obtain ⟨c, cs, rfl⟩ := List.exists_cons_of_ne_nil hne
  have hread := readDigits_append hds hlength hrest 0
  rw [List.cons_append] at hread ⊢
  rw [readNumber, if_pos (hds c (.head _)), hread]
  exact if_pos hsize

namespace Instant

/-! ### Padded numbers -/

lemma isDigit_padded (width n : Nat) : ∀ c ∈ padded width n, c.isDigit = true := by
  intro c hc
  rcases List.mem_append.mp hc with hc | hc
  · rw [List.eq_of_mem_replicate hc]
    rfl
  · exact Nat.isDigit_of_mem_toDigits (by decide) (by decide) hc

lemma padded_ne_nil (width n : Nat) : padded width n ≠ [] :=
  List.append_ne_nil_of_right_ne_nil _ Nat.toDigits_ne_nil

lemma ofDigitChars_padded (width n : Nat) : Nat.ofDigitChars 10 (padded width n) 0 = n := by
  rw [padded, Nat.ofDigitChars_append, Nat.ofDigitChars_replicate_zero, Nat.mul_zero,
    Nat.ofDigitChars_ten_toDigits]

lemma length_padded (hwidth : 0 < width) (h : n < 10 ^ width) :
    (padded width n).length = width := by
  have hle := (Nat.length_toDigits_le_iff (b := 10) (by decide) hwidth).mpr h
  rw [padded, List.length_append, List.length_replicate]
  omega

lemma readNumber_padded {limit : Nat} (hsize : n < 10 ^ 9)
    (hlength : (padded width n).length ≤ limit)
    (hrest : (padded width n).length = limit ∨ EndsDigits rest) :
    readNumber limit (padded width n ++ rest) = .ok (n, rest) := by
  have hmax : Int64.maxValue.toInt = 2 ^ 63 - 1 := rfl
  have hvalue := ofDigitChars_padded width n
  have hread := readNumber_append (isDigit_padded width n) (padded_ne_nil width n) hlength hrest
    (by rw [hvalue]; omega)
  rwa [hvalue] at hread

/-- A number of two digits is read where it is in its range. -/
lemma readWithin_padded {low high : Nat} (hlow : low ≤ n) (hhigh : n ≤ high) (hn : n < 100)
    (rest : List Char) : readWithin 2 low high (padded 2 n ++ rest) = .ok (n, rest) := by
  have hlength : (padded 2 n).length = 2 := length_padded (by decide) hn
  rw [readWithin, dropBlanks_digits (isDigit_padded 2 n) (padded_ne_nil 2 n),
    readNumber_padded (by omega) (Nat.le_of_eq hlength) (.inl hlength)]
  exact if_pos ⟨hlow, hhigh⟩

/-! ### Parts -/

/-- A year is read, with its sign where it has one. -/
lemma readYear_yearChars {year : Int} (hlow : firstYear ≤ year) (hhigh : year ≤ lastYear)
    (hrest : EndsDigits rest) : readYear (yearChars year ++ rest) = .ok (year, rest) := by
  unfold firstYear at hlow
  unfold lastYear at hhigh
  have hsize : year.natAbs < 10 ^ 9 := by omega
  have hsigned : readNumber (padded 4 year.natAbs ++ rest).length (padded 4 year.natAbs ++ rest)
      = .ok (year.natAbs, rest) :=
    readNumber_padded hsize (by simp) (.inr hrest)
  rw [yearChars]
  split_ifs with hfour hneg
  case pos =>
    have hlength : (padded 4 year.natAbs).length = 4 := length_padded (by decide) (by omega)
    have hnumber : readNumber 4 (padded 4 year.natAbs ++ rest) = .ok (year.natAbs, rest) :=
      readNumber_padded hsize (Nat.le_of_eq hlength) (.inl hlength)
    have hdigits := isDigit_padded 4 year.natAbs
    obtain ⟨c, cs, hcs⟩ := List.exists_cons_of_ne_nil (padded_ne_nil 4 year.natAbs)
    rw [hcs, List.cons_append] at hnumber
    rw [hcs] at hdigits
    have hc := hdigits c (.head _)
    rw [hcs, readYear, dropBlanks_digits hdigits nofun, List.cons_append]
    split
    case h_1 heq => cases heq; cases hc
    case h_2 heq => cases heq; cases hc
    case h_3 =>
      rw [hnumber]
      change Except.ok ((year.natAbs : Int), rest) = _
      rw [Int.natAbs_of_nonneg hfour.1]
  case pos =>
    have hmin : Int32.minValue.toInt = -2 ^ 31 := rfl
    have hback : -(year.natAbs : Int) = year := by omega
    change (readNumber (padded 4 year.natAbs ++ rest).length (padded 4 year.natAbs ++ rest) >>= _)
      = _
    rw [hsigned]
    refine (if_pos (by omega)).trans ?_
    rw [hback]
    rfl
  case neg =>
    have hmax : Int32.maxValue.toInt = 2 ^ 31 - 1 := rfl
    have hback : (year.natAbs : Int) = year := by omega
    change (readNumber (padded 4 year.natAbs ++ rest).length (padded 4 year.natAbs ++ rest) >>= _)
      = _
    rw [hsigned]
    refine (if_pos (by omega)).trans ?_
    rw [hback]
    rfl

/-- The digits of a fraction count as nanoseconds. -/
lemma readFraction_padded (hwidth : 0 < width) (hnine : width ≤ 9) (hn : n < 10 ^ width)
    (hrest : EndsDigits rest) :
    readFraction ('.' :: padded width n ++ rest) = .ok (n * 10 ^ (9 - width), rest) := by
  have hlength := length_padded hwidth hn
  have hsize : n < 10 ^ 9 := Nat.lt_of_lt_of_le hn (Nat.pow_le_pow_right (by decide) hnine)
  have hnumber := readNumber_padded hsize (hlength.trans_le hnine) (.inr hrest)
  have hzeros : ∀ c ∈ padded width n ++ List.replicate (9 - width) '0', c.isDigit = true := by
    intro c hc
    rcases List.mem_append.mp hc with hc | hc
    · exact isDigit_padded width n c hc
    · rw [List.eq_of_mem_replicate hc]
      rfl
  have hnanos : readDigits 9 (padded width n ++ List.replicate (9 - width) '0') 0
      = (n * 10 ^ (9 - width), []) := by
    have hnine : (padded width n ++ List.replicate (9 - width) '0').length = 9 := by
      rw [List.length_append, List.length_replicate, hlength]
      omega
    have hread := readDigits_append hzeros (Nat.le_of_eq hnine) (.inr endsDigits_nil) 0
    rw [List.append_nil, Nat.ofDigitChars_append, ofDigitChars_padded,
      Nat.ofDigitChars_replicate_zero, Nat.mul_comm] at hread
    exact hread
  have hstop : rest.dropWhile Char.isDigit = rest := by
    cases rest with
    | nil => rfl
    | cons c rest => exact List.dropWhile_cons_of_neg (Bool.eq_false_iff.mp (hrest c rfl))
  rw [List.cons_append, readFraction, hnumber]
  have htake : (padded width n ++ rest).take ((padded width n ++ rest).length - rest.length)
      = padded width n := by
    rw [List.length_append, Nat.add_sub_cancel, List.take_left]
  dsimp only [bind, Except.bind]
  rw [htake, hlength, hnanos, hstop]
  rfl

/-- A fraction of a second is read, where it is written and where it is not. -/
lemma readFraction_fractionChars {nano : Nat} (hnano : nano < 10 ^ 9) (hrest : EndsDigits rest)
    (hpoint : rest.head? ≠ some '.') :
    readFraction (fractionChars nano ++ rest) = .ok (nano, rest) := by
  rw [fractionChars]
  split_ifs with hzero hmillis hmicros
  case pos =>
    subst hzero
    rw [List.nil_append, readFraction]
    rintro s rfl
    exact hpoint rfl
  case pos =>
    rw [readFraction_padded (by decide) (by decide) (by omega) hrest]
    congr 2
    omega
  case pos =>
    rw [readFraction_padded (by decide) (by decide) (by omega) hrest]
    congr 2
    omega
  case neg =>
    rw [readFraction_padded (by decide) (by decide) hnano hrest]
    congr 2
    omega

/-! ### Instants -/

/-- A date and a time of day in universal time are read as they are written. -/
lemma read_parts {date : Date} {hour minute second nano : Nat} (hmin : firstYear ≤ date.year)
    (hmax : date.year ≤ lastYear) (hmonth : 1 ≤ date.month ∧ date.month ≤ 12)
    (hday : 1 ≤ date.day ∧ date.day ≤ 31) (hhour : hour ≤ 23) (hminute : minute ≤ 59)
    (hsecond : second ≤ 60) (hnano : nano < 10 ^ 9) :
    read (yearChars date.year ++ '-' :: padded 2 date.month ++ '-' :: padded 2 date.day
        ++ 'T' :: padded 2 hour ++ ':' :: padded 2 minute ++ ':' :: padded 2 second
        ++ fractionChars nano ++ ['Z'])
      = assemble date hour minute second nano 0 := by
  simp only [List.append_assoc, List.cons_append]
  have hyear : ∀ s, readYear (yearChars date.year ++ '-' :: s) = .ok (date.year, '-' :: s) :=
    fun _ => readYear_yearChars hmin hmax (endsDigits_cons rfl)
  have hdash : ∀ s, readMark '-' ('-' :: s) = .ok ((), s) := fun _ => rfl
  have hcolon : ∀ s, readMark ':' (':' :: s) = .ok ((), s) := fun _ => rfl
  have hseparator : ∀ s, readSeparator ('T' :: s) = .ok ((), s) := fun _ => rfl
  have hfraction : readFraction (fractionChars nano ++ ['Z']) = .ok (nano, ['Z']) :=
    readFraction_fractionChars hnano (endsDigits_cons rfl) (by decide)
  have hoffset : readOffset (Text.dropBlanks ['Z']) = .ok (0, []) := by decide
  simp only [read, hyear, hdash, hcolon, hseparator,
    readWithin_padded hmonth.1 hmonth.2 (by omega), readWithin_padded hday.1 hday.2 (by omega),
    readWithin_padded (Nat.zero_le hour) hhour (by omega),
    readWithin_padded (Nat.zero_le minute) hminute (by omega),
    readWithin_padded (Nat.zero_le second) hsecond (by omega), hfraction, hoffset, bind,
    Except.bind]
  rfl

/-- An instant of a day that dates are kept for; a leap second comes behind the last second of a
minute. -/
structure Valid (t : Instant) : Prop where
  first : firstDay ≤ t.day
  last : t.day ≤ lastDay
  second : t.second < 86400
  nano : t.nano < 2 * 10 ^ 9
  leap : 10 ^ 9 ≤ t.nano → t.second % 60 = 59

/-- A date and a time of day in universal time are those of one instant. -/
lemma assemble_universal {date : Date} {hour minute second nano : Nat} (hvalid : date.isValid)
    (hfirst : firstDay ≤ date.toDays) (hlast : date.toDays ≤ lastDay)
    (hclock : hour * 3600 + minute * 60 + (if second = 60 then 59 else second) < 86400) :
    assemble date hour minute second nano 0
      = .ok ⟨date.toDays, hour * 3600 + minute * 60 + (if second = 60 then 59 else second),
          nano + if second = 60 then 1000000000 else 0⟩ := by
  have hday : date.toDays
      + ((hour * 3600 + minute * 60 + (if second = 60 then 59 else second) : Nat) - 0 : Int) / 86400
      = date.toDays := by omega
  have hsecond : (((hour * 3600 + minute * 60
      + (if second = 60 then 59 else second) : Nat) - 0 : Int) % 86400).toNat
      = hour * 3600 + minute * 60 + (if second = 60 then 59 else second) := by omega
  have hrange : ¬ (date.toDays < firstDay ∨ lastDay < date.toDays) := by omega
  simp only [assemble, hday, hsecond, hvalid, hrange, Bool.not_true, Bool.false_eq_true, if_false,
    Int.natAbs_zero, Nat.reduceLeDiff]

/-- An instant is read from its own text. -/
theorem read_chars {t : Instant} (h : t.Valid) : read t.chars = .ok t := by
  obtain ⟨day, second, nano⟩ := t
  obtain ⟨hfirst, hlast, hsecond, hnano, hleap⟩ := h
  dsimp only at hfirst hlast hsecond hnano hleap
  have hvalid := Date.isValid_ofDays hfirst hlast
  have hback := Date.toDays_ofDays day
  have hdate := hvalid
  simp only [Date.isValid, Bool.and_eq_true, decide_eq_true_eq] at hdate
  obtain ⟨⟨⟨⟨⟨hmin, hmax⟩, hmonth⟩, hmonths⟩, hday⟩, hdays⟩ := hdate
  have hlength : monthLength (Date.ofDays day).year (Date.ofDays day).month ≤ 31 := by
    unfold monthLength
    split_ifs <;> decide
  simp only [chars]
  rw [read_parts hmin hmax ⟨hmonth, hmonths⟩ ⟨hday, by omega⟩ (by omega) (by omega)
    (by split <;> omega) (by split <;> omega)]
  -- A leap second is written as the second 60, and its nanoseconds without the second it adds.
  by_cases hleaps : 1000000000 ≤ nano
  · have hlate : second % 60 + 1 = 60 := congrArg (· + 1) (hleap hleaps)
    simp only [hleaps, if_true, hlate]
    rw [assemble_universal hvalid (by omega) (by omega) (by rw [if_pos rfl]; omega), hback,
      if_pos rfl, if_pos rfl]
    congr 2 <;> omega
  · have hearly : second % 60 ≠ 60 := by omega
    simp only [hleaps, if_false, Nat.add_zero]
    rw [assemble_universal hvalid (by omega) (by omega) (by rw [if_neg hearly]; omega), hback,
      if_neg hearly, if_neg hearly]
    congr 2
    omega

/-! ### What is read -/

lemma digit_le {c : Char} (h : c.isDigit = true) : c.toNat - '0'.toNat ≤ 9 := by
  have hrange : 48 ≤ c.toNat ∧ c.toNat ≤ 57 := by
    simpa [Char.isDigit, UInt32.le_iff_toNat_le] using h
  have hzero : '0'.toNat = 48 := rfl
  omega

lemma readDigits_lt (width : Nat) (s : List Char) (value : Nat) :
    (readDigits width s value).1 < (value + 1) * 10 ^ width := by
  induction width generalizing s value with
  | zero =>
    rw [readDigits]
    omega
  | succ width ih =>
    have hpow : value < (value + 1) * 10 ^ (width + 1) :=
      Nat.lt_of_lt_of_le (Nat.lt_succ_self value) (Nat.le_mul_of_pos_right _ (by positivity))
    cases s with
    | nil => exact hpow
    | cons c s =>
      rw [readDigits]
      split
      case isTrue hc =>
        have hdigit := digit_le hc
        refine Nat.lt_of_lt_of_le (ih s _) ?_
        rw [Nat.pow_succ, Nat.mul_comm (10 ^ width), ← Nat.mul_assoc]
        exact Nat.mul_le_mul_right _ (by omega)
      case isFalse => exact hpow

lemma readFraction_lt {s : List Char} (h : readFraction s = .ok (n, rest)) : n < 10 ^ 9 := by
  unfold readFraction at h
  split at h
  case h_1 s =>
    obtain ⟨⟨m, after⟩, -, h⟩ := bind_eq_ok.mp h
    cases h
    exact Nat.lt_of_lt_of_eq (readDigits_lt 9 _ 0) (by decide)
  case h_2 =>
    cases h
    decide

lemma readHoursMinutes_dvd {s : List Char} {offset : Int}
    (h : readHoursMinutes s = .ok (offset, rest)) : 60 ∣ offset := by
  obtain ⟨⟨h₁, h₂, s⟩, -, h⟩ := bind_eq_ok.mp h
  dsimp only at h
  split at h
  case isTrue => cases h
  obtain ⟨⟨m₁, m₂, s⟩, -, h⟩ := bind_eq_ok.mp h
  dsimp only at h
  split at h
  case isTrue => cases h
  split at h
  case isTrue => cases h
  cases h
  omega

/-- An offset is one of full minutes. -/
lemma readOffset_dvd {s : List Char} {offset : Int} (h : readOffset s = .ok (offset, rest)) :
    60 ∣ offset := by
  cases s with
  | nil => cases h
  | cons c s =>
    simp only [readOffset] at h
    split_ifs at h
    case pos => cases h; exact Int.dvd_zero 60
    case pos => cases h; exact Int.dvd_zero 60
    case pos => exact readHoursMinutes_dvd h
    case pos =>
      obtain ⟨⟨n, s⟩, hread, heq⟩ := map_eq_ok.mp h
      cases heq
      exact Int.dvd_neg.mpr (readHoursMinutes_dvd hread)

lemma valid_of_assemble {date : Date} {hour minute second nano : Nat} {offset : Int} {t : Instant}
    (h : assemble date hour minute second nano offset = .ok t) (hnano : nano < 10 ^ 9)
    (hoffset : 60 ∣ offset) : t.Valid := by
  obtain ⟨clock, hclock⟩ : ∃ clock : Nat,
      clock = hour * 3600 + minute * 60 + (if second = 60 then 59 else second) := ⟨_, rfl⟩
  obtain ⟨extra, hextra⟩ : ∃ extra, extra = if second = 60 then 1000000000 else 0 := ⟨_, rfl⟩
  have hleap : extra = 0 ∨ extra = 10 ^ 9 ∧ clock % 60 = 59 := by
    by_cases hsixty : second = 60
    · rw [if_pos hsixty] at hclock hextra
      omega
    · rw [if_neg hsixty] at hextra
      exact .inl hextra
  simp only [assemble, ← hclock, ← hextra] at h
  split_ifs at h with hdate hlarge hrange
  case neg =>
    cases h
    exact ⟨by dsimp only; omega, by dsimp only; omega, by dsimp only; omega, by dsimp only; omega,
      by dsimp only; omega⟩

/-- An instant that is read is one of a day that dates are kept for. -/
theorem valid_of_read {text : List Char} {t : Instant} (h : read text = .ok t) : t.Valid := by
  obtain ⟨⟨year, s⟩, -, h⟩ := bind_eq_ok.mp h
  obtain ⟨⟨_, s⟩, -, h⟩ := bind_eq_ok.mp h
  obtain ⟨⟨month, s⟩, -, h⟩ := bind_eq_ok.mp h
  obtain ⟨⟨_, s⟩, -, h⟩ := bind_eq_ok.mp h
  obtain ⟨⟨day, s⟩, -, h⟩ := bind_eq_ok.mp h
  obtain ⟨⟨_, s⟩, -, h⟩ := bind_eq_ok.mp h
  obtain ⟨⟨hour, s⟩, -, h⟩ := bind_eq_ok.mp h
  obtain ⟨⟨_, s⟩, -, h⟩ := bind_eq_ok.mp h
  obtain ⟨⟨minute, s⟩, -, h⟩ := bind_eq_ok.mp h
  obtain ⟨⟨_, s⟩, -, h⟩ := bind_eq_ok.mp h
  obtain ⟨⟨second, s⟩, -, h⟩ := bind_eq_ok.mp h
  obtain ⟨⟨nano, s⟩, hnano, h⟩ := bind_eq_ok.mp h
  obtain ⟨⟨offset, s⟩, hoffset, h⟩ := bind_eq_ok.mp h
  dsimp only at h
  split at h
  case isTrue => cases h
  case isFalse =>
    exact valid_of_assemble h (readFraction_lt hnano) (readOffset_dvd hoffset)

end Instant

end GroundLink.Time
