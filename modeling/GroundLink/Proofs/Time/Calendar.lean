import GroundLink.Time.Calendar
import Mathlib.Tactic.IntervalCases

/-!
# Days and dates

Every day number has a date, and the date leads back to the day. A day lies in an era of 400 years,
there in a year, and there in a month; each time the days before it are the greatest number that
does not pass the day.
-/

namespace GroundLink.Time

/-! ### Years of an era -/

/-- The days of an era before one of its years. -/
def daysBefore (year : Nat) : Nat := year * 365 + year / 4 - year / 100 + year / 400

/-- The year of its era that a day falls into. -/
def yearOfDay (day : Nat) : Nat := (day - day / 1460 + day / 36524 - day / 146096) / 365

lemma daysBefore_of_lt {year : Nat} (h : year < 400) :
    daysBefore year = year * 365 + year / 4 - year / 100 := by
  rw [daysBefore, Nat.div_eq_of_lt h, Nat.add_zero]

lemma daysBefore_mono : Monotone daysBefore := monotone_nat_of_le_succ fun year => by
  unfold daysBefore
  omega

/-- Any day but the last one of an era. -/
lemma yearOfDay_of_lt {n : Nat} (h : n < 146096) :
    yearOfDay n < 400 ∧ daysBefore (yearOfDay n) ≤ n ∧ n < daysBefore (yearOfDay n + 1) := by
  obtain ⟨four, hfour⟩ : ∃ q, q = n / 1460 := ⟨_, rfl⟩
  obtain ⟨century, hcentury⟩ : ∃ c, c = n / 36524 := ⟨_, rfl⟩
  obtain ⟨y, hy⟩ : ∃ y, y = yearOfDay n := ⟨_, rfl⟩
  have hyear : y = (n - four + century) / 365 := by
    rw [hy, yearOfDay, Nat.div_eq_of_lt h, Nat.sub_zero, hfour, hcentury]
  rw [← hy]
  have hlow : 365 * y ≤ n - four + century := by omega
  have hhigh : n - four + century < 365 * y + 365 := by omega
  clear hy hyear
  -- The year is one of its century, and one of its four years or the first one behind them.
  have hcenturies : century < 4 := by omega
  have hfirst : 100 * century ≤ y ∧ y ≤ 100 * century + 99 := by
    interval_cases century <;> omega
  have hlater : 4 * four ≤ y + 1 := by omega
  have hdiv : y / 100 = century := by omega
  have hyears : y < 400 := by omega
  refine ⟨hyears, ?_, ?_⟩
  · rw [daysBefore_of_lt hyears, hdiv]
    omega
  · by_cases hlast : y = 100 * century + 99
    · rw [hlast, daysBefore]
      omega
    · have hnext : (y + 1) / 100 = century := by omega
      rw [daysBefore_of_lt (by omega), hnext]
      omega

/-- A day falls into a year of its era, behind the days before this year and before the next. -/
lemma yearOfDay_spec {n : Nat} (h : n < 146097) :
    yearOfDay n < 400 ∧ daysBefore (yearOfDay n) ≤ n ∧ n < daysBefore (yearOfDay n + 1) := by
  rcases Nat.lt_succ_iff_lt_or_eq.mp h with h | rfl
  · exact yearOfDay_of_lt h
  · decide

/-! ### Months of a year -/

/-- The days of a year before one of its months, which are counted from March. -/
def daysBeforeMonth (month : Nat) : Nat := (153 * month + 2) / 5

/-- The month of its year that a day falls into. -/
def monthOfDay (day : Nat) : Nat := (5 * day + 2) / 153

lemma monthOfDay_spec {n : Nat} (h : n < 366) :
    monthOfDay n < 12 ∧ daysBeforeMonth (monthOfDay n) ≤ n
      ∧ n < daysBeforeMonth (monthOfDay n + 1) := by
  unfold monthOfDay daysBeforeMonth
  omega

/-! ### Dates -/

namespace Date

/-- A date by its year, `era * 400 + year`, by its month, both of which begin in March, and by the
days of the month before it. -/
def ofParts (era : Int) (year month day : Nat) : Date :=
  if month < 10 then ⟨era * 400 + year, month + 3, day + 1⟩
  else ⟨era * 400 + year + 1, month - 9, day + 1⟩

lemma ofDays_eq {days : Int} {n k : Nat} (hn : ((days + 719468) % 146097).toNat = n)
    (hk : n - (365 * yearOfDay n + yearOfDay n / 4 - yearOfDay n / 100) = k)
    (hmonth : monthOfDay k < 12) :
    ofDays days = ofParts ((days + 719468) / 146097) (yearOfDay n) (monthOfDay k)
      (k - daysBeforeMonth (monthOfDay k)) := by
  have hdate : ofDays days
      = ⟨if (if monthOfDay k < 10 then monthOfDay k + 3 else monthOfDay k - 9) ≤ 2
          then (days + 719468) / 146097 * 400 + yearOfDay n + 1
          else (days + 719468) / 146097 * 400 + yearOfDay n,
        if monthOfDay k < 10 then monthOfDay k + 3 else monthOfDay k - 9,
        k - daysBeforeMonth (monthOfDay k) + 1⟩ := by
    subst hn hk
    rfl
  rw [hdate, ofParts]
  by_cases hlt : monthOfDay k < 10
  · have hlate : ¬ monthOfDay k + 3 ≤ 2 := by omega
    simp only [if_pos hlt, if_neg hlate]
  · have hearly : monthOfDay k - 9 ≤ 2 := by omega
    simp only [if_neg hlt, if_pos hearly]

lemma toDays_ofParts (era : Int) {year month : Nat} (day : Nat) (hyear : year < 400)
    (hmonth : month < 12) :
    (ofParts era year month day).toDays
      = era * 146097 + (daysBefore year + daysBeforeMonth month + day : Nat) - 719468 := by
  have hera : (era * 400 + year) / 400 = era := by omega
  have hof : (era * 400 + year) % 400 = year := by omega
  rw [daysBefore_of_lt hyear, daysBeforeMonth]
  unfold ofParts
  split
  case isTrue hlt =>
    have hback : (month + 3 + 9) % 12 = month := by omega
    have hlate : ¬ month + 3 ≤ 2 := by omega
    simp only [toDays, hlate, if_false, hback, hera, hof]
    omega
  case isFalse hge =>
    have hback : (month - 9 + 9) % 12 = month := by omega
    have hearly : month - 9 ≤ 2 := by omega
    simp only [toDays, hearly, if_true, hback, Int.add_sub_cancel, hera, hof]
    omega

/-- The parts of the date of a day. -/
lemma exists_parts (days : Int) : ∃ (era : Int) (year month day : Nat),
    ofDays days = ofParts era year month day ∧ year < 400 ∧ month < 12
      ∧ days = era * 146097 + (daysBefore year + daysBeforeMonth month + day : Nat) - 719468
      ∧ daysBefore year + daysBeforeMonth month + day < daysBefore (year + 1)
      ∧ daysBeforeMonth month + day < daysBeforeMonth (month + 1) := by
  obtain ⟨n, hn⟩ : ∃ n, n = ((days + 719468) % 146097).toNat := ⟨_, rfl⟩
  obtain ⟨hyear, hbefore, hafter⟩ := yearOfDay_spec (n := n) (by omega)
  obtain ⟨k, hk⟩ : ∃ k, k = n - daysBefore (yearOfDay n) := ⟨_, rfl⟩
  have hlength : daysBefore (yearOfDay n + 1) ≤ daysBefore (yearOfDay n) + 366 := by
    unfold daysBefore
    omega
  obtain ⟨hmonth, hdays, hnext⟩ := monthOfDay_spec (n := k) (by omega)
  have hday : n - (365 * yearOfDay n + yearOfDay n / 4 - yearOfDay n / 100) = k := by
    rw [hk, daysBefore_of_lt hyear, Nat.mul_comm]
  exact ⟨_, _, _, _, ofDays_eq hn.symm hday hmonth, hyear, hmonth, by omega, by omega, by omega⟩

/-- The date of a day leads back to the day. -/
theorem toDays_ofDays (days : Int) : (ofDays days).toDays = days := by
  obtain ⟨era, year, month, day, hdate, hyear, hmonth, hdays, -, -⟩ := exists_parts days
  rw [hdate, toDays_ofParts era day hyear hmonth, ← hdays]

/-- A year with a day more than the others is a leap year. -/
lemma isLeap_of_lt (era : Int) {year : Nat} (h : daysBefore year + 365 < daysBefore (year + 1)) :
    isLeap (era * 400 + year + 1) = true := by
  unfold daysBefore at h
  simp only [isLeap, Bool.and_eq_true, Bool.or_eq_true, decide_eq_true_eq, ne_eq]
  omega

/-- The days of a month before its last one, in a year as long as its days allow. -/
lemma succ_le_monthLength (era : Int) {year month day : Nat} (hmonth : month < 12)
    (hlength : daysBefore year + daysBeforeMonth month + day < daysBefore (year + 1))
    (hnext : daysBeforeMonth month + day < daysBeforeMonth (month + 1)) :
    day + 1 ≤ monthLength (ofParts era year month day).year (ofParts era year month day).month := by
  by_cases hlast : month = 11
  · subst hlast
    change day + 1 ≤ if isLeap (era * 400 + year + 1) then 29 else 28
    have hmost : daysBefore (year + 1) ≤ daysBefore year + 366 := by
      unfold daysBefore
      omega
    have hfebruary : daysBeforeMonth 11 = 337 := rfl
    by_cases hleap : daysBefore year + 365 < daysBefore (year + 1)
    · rw [if_pos (isLeap_of_lt era hleap)]
      omega
    · split <;> omega
  · unfold daysBeforeMonth at hnext
    have hearlier : month < 11 := by omega
    interval_cases month <;> simp [ofParts, monthLength] <;> omega

/-- A day from the first one on, which dates are kept for, lies in the first year or later. -/
lemma firstYear_le {days era : Int} {year month day : Nat}
    (hdays : days = era * 146097 + (daysBefore year + daysBeforeMonth month + day : Nat) - 719468)
    (hlength : daysBefore year + daysBeforeMonth month + day < daysBefore (year + 1))
    (hnext : daysBeforeMonth month + day < daysBeforeMonth (month + 1)) (hyear : year < 400)
    (hfirst : firstDay ≤ days) : firstYear ≤ (ofParts era year month day).year := by
  have hfirstDay : firstDay = -96465292 := by decide
  have hera : daysBefore (year + 1) ≤ daysBefore 400 := daysBefore_mono hyear
  have hdays400 : daysBefore 400 = 146097 := rfl
  -- The first day is one of January, and so belongs to the year that began in March before it.
  have hmarch : era = -656 → 256 ≤ year ∧ (year = 256 → 10 ≤ month) := by
    intro heq
    have hdays256 : daysBefore 256 = 93502 := rfl
    constructor
    · by_contra hlt
      have hbefore : daysBefore (year + 1) ≤ daysBefore 256 := daysBefore_mono (by omega)
      omega
    · rintro rfl
      by_contra hlt
      have hbefore : daysBeforeMonth (month + 1) ≤ 306 := by
        unfold daysBeforeMonth
        omega
      omega
  unfold ofParts firstYear
  split <;> dsimp only <;> omega

/-- A day up to the last one, which dates are kept for, lies in the last year or earlier. -/
lemma le_lastYear {days era : Int} {year month day : Nat}
    (hdays : days = era * 146097 + (daysBefore year + daysBeforeMonth month + day : Nat) - 719468)
    (hyear : year < 400) (hlast : days ≤ lastDay) :
    (ofParts era year month day).year ≤ lastYear := by
  have hlastDay : lastDay = 95026236 := by decide
  -- The last day is one of December, and so belongs to the year that began in March before it.
  have hmarch : era = 655 → year ≤ 142 ∧ (year = 142 → month < 10) := by
    intro heq
    constructor
    · by_contra hlt
      have hdays143 : daysBefore 143 = 52229 := rfl
      have hbefore : daysBefore 143 ≤ daysBefore year := daysBefore_mono (by omega)
      omega
    · rintro rfl
      by_contra hlt
      have hdays142 : daysBefore 142 = 51864 := rfl
      have hbefore : 306 ≤ daysBeforeMonth month := by
        unfold daysBeforeMonth
        omega
      omega
  unfold ofParts lastYear
  split <;> dsimp only <;> omega

/-- The date of a day exists. -/
theorem isValid_ofDays {days : Int} (hfirst : firstDay ≤ days) (hlast : days ≤ lastDay) :
    (ofDays days).isValid := by
  obtain ⟨era, year, month, day, hdate, hyear, hmonth, hdays, hlength, hnext⟩ := exists_parts days
  have hmin := firstYear_le hdays hlength hnext hyear hfirst
  have hmax : (ofParts era year month day).year ≤ lastYear := le_lastYear hdays hyear hlast
  have hday := succ_le_monthLength era hmonth hlength hnext
  rw [hdate]
  have hmonths : 1 ≤ (ofParts era year month day).month
      ∧ (ofParts era year month day).month ≤ 12 := by
    unfold ofParts
    split <;> dsimp only <;> omega
  have hdays : (ofParts era year month day).day = day + 1 := by
    unfold ofParts
    split <;> rfl
  simp only [isValid, Bool.and_eq_true, decide_eq_true_eq]
  exact ⟨⟨⟨⟨⟨hmin, hmax⟩, hmonths.1⟩, hmonths.2⟩, by omega⟩, hdays ▸ hday⟩

end Date

end GroundLink.Time
