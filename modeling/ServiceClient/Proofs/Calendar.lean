import Mathlib.Order.Monotone.Basic
import Mathlib.Order.Lattice.Nat
import ServiceClient.Proofs.NumberText
import ServiceClient.Time.InternetText

/-!
# Dates and clocks taken apart

A day count falls into cycles of 400 years, a year of the cycle and a day of that year; the year
is counted from March. Taking a date apart and putting it together are inverse to each other, and
the parts of a clock between the years 1 and 9999 exist.

* `Date.toDays_ofDays`: the date of a day count is that many days from 1970.
* `Date.isValid_ofDays`: it exists if its year has one to four digits.
* `Timestamp.ofParts?_parts`: a timestamp is put together from its date and its time.
* `fixedDigits?_zeroPadded`: a number of fixed width is read back.
-/

namespace ServiceClient

namespace Date

/-- The year of a cycle that has a day of the cycle, as `ofDays` finds it. -/
def cycleYear (n : Nat) : Nat := (n - n / 1460 + n / 36524 - n / 146096) / 365

/-- The first day of a year of a cycle. -/
def firstDay (year : Nat) : Nat := 365 * year + year / 4 - year / 100 + year / 400

theorem monotone_cycleYear : Monotone cycleYear := by
  apply monotone_nat_of_le_succ
  intro n
  unfold cycleYear
  apply Nat.div_le_div_right
  omega

theorem firstDay_eq {year : Nat} (h : year < 400) :
    (firstDay year : Int) = 365 * year + (year : Int) / 4 - (year : Int) / 100 := by
  unfold firstDay
  omega

/-- The first and the last day of each year lie in it. -/
theorem cycleYear_firstDay : ∀ year < 400, cycleYear (firstDay year) = year ∧
    cycleYear (firstDay (year + 1) - 1) = year := by
  decide +kernel

/-- A day lies between the first day of its year and that of the next one. -/
theorem firstDay_cycleYear {n : Nat} (hn : n < 146097) :
    cycleYear n < 400 ∧ firstDay (cycleYear n) ≤ n ∧ n < firstDay (cycleYear n + 1) := by
  have hlast : cycleYear 146096 = 399 := by decide +kernel
  have hyear : cycleYear n < 400 := by
    have := monotone_cycleYear (show n ≤ 146096 by omega)
    omega
  refine ⟨hyear, ?_, ?_⟩
  · -- a day before the first one would lie in the year before
    by_contra hbefore
    have hpos : 0 < cycleYear n := by
      rw [Nat.pos_iff_ne_zero]
      intro hzero
      rw [hzero] at hbefore
      exact hbefore (Nat.zero_le n)
    obtain ⟨year, hsucc⟩ : ∃ year, cycleYear n = year + 1 := ⟨cycleYear n - 1, by omega⟩
    have hle : n ≤ firstDay (year + 1) - 1 := by rw [hsucc] at hbefore; omega
    have hmono := monotone_cycleYear hle
    have := (cycleYear_firstDay year (by omega)).2
    omega
  · -- a day from the next one on would lie in the year after
    by_contra hafter
    have hle : firstDay (cycleYear n + 1) ≤ n := by omega
    have hmono := monotone_cycleYear hle
    by_cases hnext : cycleYear n + 1 < 400
    · have := (cycleYear_firstDay _ hnext).1
      omega
    · have hend : cycleYear n + 1 = 400 := by omega
      have : firstDay 400 = 146097 := by decide
      rw [hend] at hle
      omega

/-- A year of a cycle, counted from March, has a last day of February more if the year that the
day lies in is a leap year. -/
theorem length_year {year : Nat} (hyear : year < 400) :
    firstDay (year + 1) = firstDay year + 365 ∨
      firstDay (year + 1) = firstDay year + 366 ∧
        ∀ cycle : Int, isLeapYear (year + cycle * 400 + 1) = true := by
  unfold firstDay
  by_cases hleap : (year + 1) % 4 = 0 ∧ ((year + 1) % 100 ≠ 0 ∨ (year + 1) % 400 = 0)
  · right
    obtain ⟨hfour, hcentury⟩ := hleap
    refine ⟨by omega, fun cycle => ?_⟩
    have h4 : ((year : Int) + cycle * 400 + 1) % 4 = 0 := by omega
    unfold isLeapYear
    rcases hcentury with h | h
    · have h100 : ((year : Int) + cycle * 400 + 1) % 100 ≠ 0 := by omega
      simp [h4, h100]
    · have h400 : ((year : Int) + cycle * 400 + 1) % 400 = 0 := by omega
      simp [h4, h400]
  · left
    omega

/-- The parts that a day count falls into: a cycle, a year of it and a day of that year. -/
structure Parts (days : Int) (cycle : Int) (year day : Nat) : Prop where
  count : days + 719468 = cycle * 146097 + firstDay year + day
  year_lt : year < 400
  day_lt : day < firstDay (year + 1) - firstDay year

theorem exists_parts (days : Int) : ∃ cycle year day, Parts days cycle year day := by
  obtain ⟨n, hn⟩ : ∃ n : Nat, (days + 719468) % 146097 = n :=
    ⟨((days + 719468) % 146097).toNat, by omega⟩
  obtain ⟨hyear, hfirst, hnext⟩ := firstDay_cycleYear (show n < 146097 by omega)
  exact ⟨(days + 719468) / 146097, cycleYear n, n - firstDay (cycleYear n),
    by omega, hyear, by omega⟩

/-- The month, counted from March, that a day of the year lies in. -/
def marchMonth (day : Nat) : Nat := (5 * day + 2) / 153

/-- Where the month of a day of a year begins and ends. -/
theorem marchMonth_spec {day : Nat} (h : day < 366) :
    marchMonth day < 12 ∧ (153 * marchMonth day + 2) / 5 ≤ day ∧
      day < (153 * (marchMonth day + 1) + 2) / 5 := by
  unfold marchMonth
  omega

/-- A year has at most 366 days. -/
theorem Parts.day_lt_366 {days cycle : Int} {year day : Nat} (h : Parts days cycle year day) :
    day < 366 := by
  have hlength := length_year h.year_lt
  have := h.day_lt
  omega

theorem ofDays_of_parts {days cycle : Int} {year day : Nat} (h : Parts days cycle year day) :
    ofDays days =
      ⟨year + cycle * 400 + (if marchMonth day < 10 then 0 else 1),
        if marchMonth day < 10 then marchMonth day + 3 else marchMonth day - 9,
        day - (153 * marchMonth day + 2) / 5 + 1⟩ := by
  obtain ⟨hmonth, hstart, hend⟩ := marchMonth_spec h.day_lt_366
  obtain ⟨hcount, hyear, hday⟩ := h
  obtain ⟨n, hn⟩ : ∃ n : Nat, n = firstDay year + day := ⟨_, rfl⟩
  have hbound : n < 146097 := by
    have hlast : firstDay (year + 1) ≤ 146097 := by unfold firstDay; omega
    omega
  -- the year that the formula finds is the one that the day lies in
  have hfound : cycleYear n = year := by
    obtain ⟨hfirst, hlast⟩ := cycleYear_firstDay year hyear
    have hlow := monotone_cycleYear (show firstDay year ≤ n by omega)
    have hhigh := monotone_cycleYear (show n ≤ firstDay (year + 1) - 1 by omega)
    omega
  have hcycle : (days + 719468) / 146097 = cycle := by omega
  have hrest : (days + 719468) % 146097 = n := by omega
  have hyears : ((n : Int) - n / 1460 + n / 36524 - n / 146096) / 365 = year := by
    unfold cycleYear at hfound
    omega
  have hdays : (n : Int) - (365 * year + (year : Int) / 4 - (year : Int) / 100) = day := by
    have hstart := firstDay_eq hyear
    omega
  have hmonths : (5 * (day : Int) + 2) / 153 = marchMonth day := by unfold marchMonth; omega
  unfold ofDays
  simp only [hcycle, hrest, hyears, hdays, hmonths, Date.mk.injEq]
  by_cases hspring : marchMonth day < 10
  · have hint : (marchMonth day : Int) < 10 := by omega
    have hlate : ¬ (marchMonth day : Int) + 3 ≤ 2 := by omega
    simp only [if_pos hspring, if_pos hint, if_neg hlate]
    refine ⟨trivial, by omega, by omega⟩
  · have hint : ¬ (marchMonth day : Int) < 10 := by omega
    have hearly : (marchMonth day : Int) - 9 ≤ 2 := by omega
    simp only [if_neg hspring, if_neg hint, if_pos hearly]
    refine ⟨trivial, by omega, by omega⟩

/-- **The date of a day count** is that many days from 1970. -/
theorem toDays_ofDays (days : Int) : (ofDays days).toDays = days := by
  obtain ⟨cycle, year, day, h⟩ := exists_parts days
  rw [ofDays_of_parts h]
  obtain ⟨hmonth, hstart, hend⟩ := marchMonth_spec h.day_lt_366
  obtain ⟨hcount, hyear, -⟩ := h
  have hcycle : ((year : Int) + cycle * 400) / 400 = cycle := by omega
  have hrest : ((year : Int) + cycle * 400) % 400 = year := by omega
  unfold firstDay at hcount
  unfold toDays
  by_cases hspring : marchMonth day < 10
  · have hlate : ¬ marchMonth day + 3 ≤ 2 := by omega
    have hback : (((marchMonth day + 3 : Nat) : Int) + 9) % 12 = marchMonth day := by omega
    simp only [if_pos hspring, if_neg hlate, Int.add_zero, hcycle, hrest, hback]
    omega
  · have hearly : marchMonth day - 9 ≤ 2 := by omega
    have hback : (((marchMonth day - 9 : Nat) : Int) + 9) % 12 = marchMonth day := by omega
    simp only [if_neg hspring, if_pos hearly, Int.add_sub_cancel, hcycle, hrest, hback]
    omega

/-- A month has the days from its first one to the first one of the next month; February is the
last month of a year that is counted from March. -/
theorem day_le_daysInMonth {cycle : Int} {year day : Nat} (hyear : year < 400)
    (hday : day < firstDay (year + 1) - firstDay year) :
    day - (153 * marchMonth day + 2) / 5 + 1 ≤
      daysInMonth (year + cycle * 400 + (if marchMonth day < 10 then 0 else 1))
        (if marchMonth day < 10 then marchMonth day + 3 else marchMonth day - 9) := by
  have hlength := length_year hyear
  obtain ⟨hmonth, hstart, hend⟩ := marchMonth_spec (show day < 366 by omega)
  unfold daysInMonth
  by_cases hspring : marchMonth day < 10
  · simp only [if_pos hspring]
    split
    · omega
    · split <;> omega
  · simp only [if_neg hspring]
    by_cases hfebruary : marchMonth day = 11
    · -- the 366th day of the year is the 29th of February
      rw [hfebruary] at hstart hend ⊢
      rw [if_pos (by omega)]
      obtain hshort | ⟨hlong, hleap⟩ := hlength
      · split <;> omega
      · rw [if_pos (hleap cycle)]
        omega
    · rw [if_neg (by omega), if_neg (by omega)]
      omega

/-- **The date of a day count exists** if its year has one to four digits. -/
theorem isValid_ofDays {days : Int} (hfirst : toDays ⟨1, 1, 1⟩ ≤ days)
    (hlast : days < toDays ⟨10000, 1, 1⟩) : (ofDays days).isValid = true := by
  have hlow : toDays ⟨1, 1, 1⟩ = -719162 := by decide
  have hhigh : toDays ⟨10000, 1, 1⟩ = 2932897 := by decide
  obtain ⟨cycle, year, day, h⟩ := exists_parts days
  rw [ofDays_of_parts h]
  obtain ⟨hmonth, hstart, hend⟩ := marchMonth_spec h.day_lt_366
  obtain ⟨hcount, hyear, hday⟩ := h
  have hlength := length_year hyear
  have hyears : (1 : Int) ≤ year + cycle * 400 + (if marchMonth day < 10 then 0 else 1) ∧
      (year : Int) + cycle * 400 + (if marchMonth day < 10 then 0 else 1) ≤ 9999 := by
    have hten : marchMonth day < 10 ↔ day < 306 := by unfold marchMonth; omega
    have hfirstDay := firstDay_eq hyear
    have hcycles : 0 ≤ cycle ∧ cycle ≤ 24 := by omega
    split <;> omega
  have hexists := @day_le_daysInMonth cycle year day hyear hday
  unfold isValid
  simp only [Bool.and_eq_true, decide_eq_true_eq]
  refine ⟨⟨⟨⟨⟨hyears.1, hyears.2⟩, ?_⟩, ?_⟩, by omega⟩, hexists⟩
  · split <;> omega
  · split <;> omega

end Date

/-! ### Clocks -/

namespace TimeOfDay

/-- The parts of less than a day exist, and mean it. -/
theorem ofMicroseconds_spec {n : Nat} (h : n < 86400000000) :
    (ofMicroseconds n).hour < 24 ∧ (ofMicroseconds n).minute < 60 ∧
      (ofMicroseconds n).second < 60 ∧ (ofMicroseconds n).microsecond < 1000000 ∧
      (ofMicroseconds n).toMicroseconds = n := by
  unfold ofMicroseconds toMicroseconds
  refine ⟨?_, ?_, ?_, ?_, ?_⟩ <;> dsimp only <;> omega

end TimeOfDay

namespace Timestamp

/-- What is left of a clock beside whole days is less than a day. -/
theorem clock_rest (t : Timestamp) : (t.clock % microsecondsPerDay).toNat < 86400000000 := by
  unfold microsecondsPerDay
  omega

/-- **A timestamp is put together** from its date and its time. -/
theorem ofParts_parts (t : Timestamp) : ofParts t.date t.timeOfDay t.offset = t := by
  obtain ⟨clock, offset⟩ := t
  have hrest := clock_rest ⟨clock, offset⟩
  obtain ⟨-, -, -, -, htime⟩ := TimeOfDay.ofMicroseconds_spec hrest
  have hdate : (date ⟨clock, offset⟩).toDays = clock / microsecondsPerDay := Date.toDays_ofDays _
  unfold ofParts timeOfDay
  rw [htime, hdate]
  congr 1
  show clock / 86400000000 * 86400000000 + ((clock % 86400000000).toNat : Int) = clock
  omega

theorem isValid_date {t : Timestamp} (h : t.inRange = true) : t.date.isValid = true := by
  unfold inRange earliest latest at h
  rw [Bool.and_eq_true, decide_eq_true_eq, decide_eq_true_eq] at h
  unfold microsecondsPerDay at h
  unfold date microsecondsPerDay
  apply Date.isValid_ofDays
  · omega
  · omega

/-- The bounds of the parts of a clock. -/
theorem parts_bounds {t : Timestamp} (h : t.inRange = true) :
    (t.date.year.toNat : Int) = t.date.year ∧ t.date.year.toNat < 10000 ∧ t.date.month < 100 ∧
      t.date.day < 100 := by
  have hvalid := isValid_date h
  unfold Date.isValid at hvalid
  simp only [Bool.and_eq_true, decide_eq_true_eq] at hvalid
  obtain ⟨⟨⟨⟨⟨hfirst, hlast⟩, -⟩, hmonth⟩, -⟩, hday⟩ := hvalid
  have hlength : daysInMonth t.date.year t.date.month ≤ 31 := by
    unfold daysInMonth
    split
    · split <;> omega
    · split <;> omega
  omega

/-- The parts of a clock make a timestamp of any offset. -/
theorem ofParts?_parts {t : Timestamp} (h : t.inRange = true) (offset : Option Int) :
    ofParts? ⟨t.date.year.toNat, t.date.month, t.date.day⟩
      ⟨t.timeOfDay.hour, t.timeOfDay.minute, t.timeOfDay.second, t.timeOfDay.microsecond⟩ offset =
      some ⟨t.clock, offset⟩ := by
  obtain ⟨hhour, hminute, hsecond, -, -⟩ := TimeOfDay.ofMicroseconds_spec (clock_rest t)
  have hparts := ofParts_parts ⟨t.clock, offset⟩
  have hyear : (t.date.year.toNat : Int) = t.date.year := (parts_bounds h).1
  have hdate : (⟨t.date.year.toNat, t.date.month, t.date.day⟩ : Date) = t.date := by rw [hyear]
  unfold ofParts?
  rw [if_pos, hdate]
  · exact congrArg some hparts
  · rw [hdate, isValid_date h]
    unfold timeOfDay
    simp only [hhour, hminute, hsecond, decide_true, Bool.and_self]

end Timestamp

/-! ### Padded numbers -/

/-- A number fills its width. -/
theorem length_zeroPadded {width n : Nat} (hw : 0 < width) (h : n < 10 ^ width) :
    (zeroPadded width n).toList.length = width := by
  have hdigits : (decimalDigits n).length ≤ width := (Nat.length_toDigits_le_iff (by decide) hw).2 h
  unfold zeroPadded
  rw [String.toList_ofList, List.length_append, List.length_replicate]
  omega

theorem isDigits_zeroPadded (width n : Nat) : IsDigits (zeroPadded width n).toList := by
  unfold zeroPadded
  rw [String.toList_ofList]
  exact (isDigits_zeros _).append (isDigits_decimalDigits n)

/-- Zeros in front do not count. -/
theorem ofDigitChars_zeros (k : Nat) (s : List Char) :
    Nat.ofDigitChars 10 (List.replicate k '0' ++ s) 0 = Nat.ofDigitChars 10 s 0 := by
  induction k with
  | zero => rfl
  | succ k ih => rw [List.replicate_succ, List.cons_append, Nat.ofDigitChars_cons, ← ih]; rfl

theorem ofDigitChars_zeroPadded (width n : Nat) :
    Nat.ofDigitChars 10 (zeroPadded width n).toList 0 = n := by
  unfold zeroPadded
  rw [String.toList_ofList, ofDigitChars_zeros]
  exact Nat.ofDigitChars_ten_toDigits

/-- **A padded number is read** off the front. -/
theorem fixedDigits?_zeroPadded {width n : Nat} (hw : 0 < width) (h : n < 10 ^ width)
    (rest : List Char) :
    fixedDigits? width ((zeroPadded width n).toList ++ rest) = some (n, rest) := by
  have hlength := length_zeroPadded hw h
  have htake : ((zeroPadded width n).toList ++ rest).take width = (zeroPadded width n).toList := by
    rw [List.take_append_of_le_length (by omega), List.take_of_length_le (by omega)]
  have hdrop : ((zeroPadded width n).toList ++ rest).drop width = rest := by
    rw [List.drop_append_of_le_length (by omega), List.drop_of_length_le (by omega),
      List.nil_append]
  have hall : (zeroPadded width n).toList.all Char.isDigit = true :=
    List.all_eq_true.2 (isDigits_zeroPadded width n)
  unfold fixedDigits?
  simp only [htake, hdrop, hlength, hall, decide_true, Bool.and_self, if_true,
    ofDigitChars_zeroPadded]

end ServiceClient
