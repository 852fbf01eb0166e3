import DecisionPoint.Time.Calendar

/-!
# Days and dates

The date of a day is valid, and its day is the one it came from.  Within an era the year of a day
is the one whose first day is the last that is not later.
-/

set_option autoImplicit false

namespace DecisionPoint.Date

def daysBefore (year : Int) : Int :=
  365 * year + year / 4 - year / 100

def yearOfDay (day : Int) : Int :=
  (day - day / 1460 + day / 36524 - day / 146096) / 365

def monthOfDay (day : Int) : Int :=
  (5 * day + 2) / 153

def daysBeforeMonth (month : Int) : Int :=
  (153 * month + 2) / 5

theorem year_within_century {day year century : Int} (known : century ∈ [0, 1, 2, 3])
    (within : day / 36524 = century) (counted : year = (day - day / 1460 + century) / 365) :
    year / 100 = century ∧ year / 4 ≤ day / 1460 ∧ day / 1460 ≤ (year + 1) / 4 := by
  simp only [List.mem_cons, List.not_mem_nil, or_false] at known
  have hundred : year / 100 = century := by
    rcases known with rfl | rfl | rfl | rfl <;> omega
  refine ⟨hundred, ?_, ?_⟩
  · rcases known with rfl | rfl | rfl | rfl <;> omega
  · rcases known with rfl | rfl | rfl | rfl <;> omega

/-- The year of a day has begun, and the next one has not; only the last day of an era lies beyond
the regular years. -/
theorem yearOfDay_spec {day : Int} (low : 0 ≤ day) (high : day < 146097) :
    0 ≤ yearOfDay day ∧ yearOfDay day ≤ 399 ∧ daysBefore (yearOfDay day) ≤ day ∧
      (day < daysBefore (yearOfDay day + 1) ∨ yearOfDay day = 399 ∧ day = 146096) := by
  by_cases last : day = 146096
  · subst last
    decide
  · have regular : day / 146096 = 0 := by omega
    have known : day / 36524 ∈ [0, 1, 2, 3] := by
      simp only [List.mem_cons, List.not_mem_nil, or_false]
      omega
    have counted : yearOfDay day = (day - day / 1460 + day / 36524) / 365 := by
      rw [yearOfDay, regular, Int.sub_zero]
    obtain ⟨hundred, begun, next⟩ := year_within_century known rfl counted
    generalize yearOfDay day = year at *
    unfold daysBefore
    refine ⟨by omega, by omega, by omega, Or.inl ?_⟩
    -- The next year is one of the same century, or the first of the next one.
    have following : (year + 1) / 100 = year / 100 ∨ year + 1 = 100 * (year / 100 + 1) := by omega
    rcases following with same | first
    · omega
    · rw [first, hundred]
      omega

def civilMonth (month : Int) : Int :=
  if month < 10 then month + 3 else month - 9

/-- The date of a day of a month from March, in a year of an era. -/
def fromMarch (era year month day : Int) : Date :=
  ⟨year + era * 400 + (if civilMonth month ≤ 2 then 1 else 0), (civilMonth month).toNat, day.toNat⟩

theorem ofDays_eq_fromMarch (days : Int) :
    ∃ era day year month, days + 719468 = era * 146097 + day ∧ 0 ≤ day ∧ day < 146097 ∧
      yearOfDay day = year ∧ monthOfDay (day - daysBefore year) = month ∧
      ofDays days =
        fromMarch era year month (day - daysBefore year - daysBeforeMonth month + 1) := by
  refine ⟨(days + 719468).fdiv 146097, days + 719468 - (days + 719468).fdiv 146097 * 146097, _, _,
    by omega, ?_, ?_, rfl, rfl, rfl⟩
  · rw [Int.fdiv_eq_ediv_of_nonneg _ (by decide)]
    omega
  · rw [Int.fdiv_eq_ediv_of_nonneg _ (by decide)]
    omega

theorem toDays_fromMarch {era year month day : Int} (yearLow : 0 ≤ year) (yearHigh : year ≤ 399)
    (monthLow : 0 ≤ month) (monthHigh : month ≤ 11) (begun : 0 ≤ day) :
    (fromMarch era year month day).toDays =
      era * 146097 + daysBefore year + daysBeforeMonth month + day - 1 - 719468 := by
  unfold fromMarch toDays civilMonth daysBefore daysBeforeMonth
  simp only [Int.fdiv_eq_ediv_of_nonneg _ (show (0 : Int) ≤ 400 by decide)]
  split <;> split <;> split <;> omega

theorem monthOfDay_spec {day : Int} (low : 0 ≤ day) (high : day ≤ 365) :
    0 ≤ monthOfDay day ∧ monthOfDay day ≤ 11 ∧ daysBeforeMonth (monthOfDay day) ≤ day ∧
      day < daysBeforeMonth (monthOfDay day + 1) := by
  unfold monthOfDay daysBeforeMonth
  omega

/-- Every month but February has as many days as lie between its beginning and that of the next. -/
theorem daysInMonth_civilMonth {month : Int} (low : 0 ≤ month) (high : month ≤ 10) (year : Int) :
    (daysInMonth year (civilMonth month).toNat : Int) =
      daysBeforeMonth (month + 1) - daysBeforeMonth month := by
  have months : month = 0 ∨ month = 1 ∨ month = 2 ∨ month = 3 ∨ month = 4 ∨ month = 5 ∨ month = 6 ∨
      month = 7 ∨ month = 8 ∨ month = 9 ∨ month = 10 := by omega
  rcases months with rfl | rfl | rfl | rfl | rfl | rfl | rfl | rfl | rfl | rfl | rfl <;> rfl

theorem isValid_fromMarch {era year month day : Int} (low : 0 ≤ month) (high : month ≤ 11)
    (first : 1 ≤ day) (within : daysBeforeMonth month + day ≤ daysBeforeMonth (month + 1))
    (last : month = 11 → day ≤ 28 ∨ day = 29 ∧ isLeapYear (year + era * 400 + 1) = true) :
    (fromMarch era year month day).isValid = true := by
  have inYear : 1 ≤ (civilMonth month).toNat ∧ (civilMonth month).toNat ≤ 12 := by
    unfold civilMonth
    split <;> omega
  have inMonth : day.toNat ≤
      daysInMonth (fromMarch era year month day).year (civilMonth month).toNat := by
    by_cases february : month = 11
    · subst february
      change day.toNat ≤ if isLeapYear (year + era * 400 + 1) then 29 else 28
      rcases last rfl with short | ⟨leapDay, leap⟩
      · split <;> omega
      · rw [if_pos leap]
        omega
    · have length := daysInMonth_civilMonth low (by omega) (fromMarch era year month day).year
      omega
  have begun : 1 ≤ day.toNat := by omega
  simp only [isValid, Bool.and_eq_true, decide_eq_true_eq]
  exact ⟨⟨inYear, begun⟩, inMonth⟩

theorem daysBefore_succ_le (year : Int) : daysBefore (year + 1) ≤ daysBefore year + 366 := by
  unfold daysBefore
  omega

theorem isLeapYear_of_long {year day : Int} (long : daysBefore year + 365 ≤ day)
    (within : day < daysBefore (year + 1) ∨ year = 399 ∧ day = 146096) (era : Int) :
    isLeapYear (year + era * 400 + 1) = true := by
  unfold daysBefore at long within
  simp only [isLeapYear, Bool.and_eq_true, Bool.or_eq_true, decide_eq_true_eq]
  omega

theorem ofDays_spec (days : Int) :
    (ofDays days).toDays = days ∧ (ofDays days).isValid = true := by
  obtain ⟨era, day, year, month, split, low, high, counted, counted', date⟩ :=
    ofDays_eq_fromMarch days
  obtain ⟨yearLow, yearHigh, begun, within⟩ := yearOfDay_spec low high
  rw [counted] at yearLow yearHigh begun within
  have short : day - daysBefore year ≤ 365 := by
    rcases within with regular | ⟨last, lastDay⟩
    · have atMost := daysBefore_succ_le year
      omega
    · rw [last, lastDay]
      decide
  obtain ⟨monthLow, monthHigh, monthBegun, monthEnds⟩ := monthOfDay_spec (by omega) short
  rw [counted'] at monthLow monthHigh monthBegun monthEnds
  rw [date]
  constructor
  · rw [toDays_fromMarch yearLow yearHigh monthLow monthHigh (by omega)]
    omega
  · refine isValid_fromMarch monthLow monthHigh (by omega) (by omega) ?_
    intro february
    rw [february, show daysBeforeMonth 11 = 337 from rfl]
    by_cases leapDay : day - daysBefore year = 365
    · exact .inr ⟨by omega, isLeapYear_of_long (by omega) within era⟩
    · exact .inl (by omega)

theorem le_of_isValid {date : Date} (valid : date.isValid = true) :
    date.month ≤ 12 ∧ date.day ≤ 31 := by
  simp only [isValid, Bool.and_eq_true, decide_eq_true_eq] at valid
  obtain ⟨⟨⟨-, month⟩, -⟩, day⟩ := valid
  have longest : daysInMonth date.year date.month ≤ 31 := by
    unfold daysInMonth
    split
    · split <;> decide
    all_goals decide
  exact ⟨month, Nat.le_trans day longest⟩

end DecisionPoint.Date
