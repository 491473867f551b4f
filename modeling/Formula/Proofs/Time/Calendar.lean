import Formula.Time.Calendar

/-!
Days and dates count alike: every day of the calendar has one valid date, every valid date one
day, and years begin where the years before them end.
-/

namespace Formula.Calendar

def daysInYear (year : Int) : Int :=
  if isLeapYear year then 366 else 365

theorem isLeapYear_iff (year : Int) :
    isLeapYear year = true ↔ year % 4 = 0 ∧ (year % 100 ≠ 0 ∨ year % 400 = 0) := by
  simp [isLeapYear]

theorem daysInYear_cases (year : Int) :
    daysInYear year = 366 ∧ year % 4 = 0 ∧ (year % 100 ≠ 0 ∨ year % 400 = 0) ∨
      daysInYear year = 365 ∧ ¬(year % 4 = 0 ∧ (year % 100 ≠ 0 ∨ year % 400 = 0)) := by
  unfold daysInYear
  split
  · next leap => exact .inl ⟨rfl, (isLeapYear_iff year).mp leap⟩
  · next common => exact .inr ⟨rfl, fun leap => common ((isLeapYear_iff year).mpr leap)⟩

theorem daysBeforeYear_succ (year : Int) :
    daysBeforeYear (year + 1) = daysBeforeYear year + daysInYear year := by
  simp only [daysBeforeYear]
  rcases daysInYear_cases year with ⟨days, leap⟩ | ⟨days, common⟩ <;> omega

theorem daysBeforeYear_mono {year later : Int} (before : year ≤ later) :
    daysBeforeYear year ≤ daysBeforeYear later := by
  simp only [daysBeforeYear]
  omega

/-- The guess is off by one at most, and the correction undoes this. -/
theorem yearOf_spec (day : Int) :
    daysBeforeYear (yearOf day) ≤ day ∧ day < daysBeforeYear (yearOf day + 1) := by
  have lower : daysBeforeYear (day * 400 / 146097 + 1 - 1) ≤ day := by
    simp only [daysBeforeYear]
    omega
  have upper : day < daysBeforeYear (day * 400 / 146097 + 1 + 1 + 1) := by
    simp only [daysBeforeYear]
    omega
  simp only [yearOf]
  split
  · next early =>
      rw [Int.sub_add_cancel]
      exact ⟨lower, early⟩
  · split
    · next late => exact ⟨late, upper⟩
    · next early late => exact ⟨Int.not_lt.mp early, Int.not_le.mp late⟩

theorem le_yearOf_iff (year day : Int) : year ≤ yearOf day ↔ daysBeforeYear year ≤ day := by
  have spec := yearOf_spec day
  constructor
  · intro inside
    have begun := daysBeforeYear_mono inside
    omega
  · intro begun
    by_cases before : year ≤ yearOf day
    · exact before
    · have ended : daysBeforeYear (yearOf day + 1) ≤ daysBeforeYear year :=
        daysBeforeYear_mono (by omega)
      omega

theorem yearOf_eq {year day : Int} (begun : daysBeforeYear year ≤ day)
    (goesOn : day < daysBeforeYear (year + 1)) : yearOf day = year := by
  have notBefore := (le_yearOf_iff year day).mpr begun
  have notAfter : ¬year + 1 ≤ yearOf day := fun after =>
    Int.not_lt.mpr ((le_yearOf_iff (year + 1) day).mp after) goesOn
  omega

variable {year : Int}

theorem daysInMonth_mem (year : Int) (month : Nat) :
    28 ≤ daysInMonth year month ∧ daysInMonth year month ≤ 31 := by
  unfold daysInMonth
  split
  · split <;> decide
  all_goals decide

theorem daysBeforeMonth_succ (year : Int) {month : Nat} (counted : 1 ≤ month) :
    daysBeforeMonth year (month + 1) = daysBeforeMonth year month + daysInMonth year month := by
  cases month with
  | zero => omega
  | succ month => rfl

theorem daysBeforeMonth_mono (year : Int) {month later : Nat} (before : month ≤ later) :
    daysBeforeMonth year month ≤ daysBeforeMonth year later := by
  induction later with
  | zero => exact Nat.le_of_eq (congrArg _ (Nat.le_zero.mp before))
  | succ later ih =>
      by_cases same : month = later + 1
      · exact Nat.le_of_eq (congrArg _ same)
      · have earlier := ih (by omega)
        cases later with
        | zero => exact earlier
        | succ later =>
            rw [daysBeforeMonth_succ year (Nat.le_add_left 1 later)]
            omega

theorem daysBeforeMonth_thirteen (year : Int) :
    (daysBeforeMonth year 13 : Int) = daysInYear year := by
  unfold daysInYear
  simp only [daysBeforeMonth, daysInMonth]
  split <;> rfl

/-- Of things that start one after the other, those that have started are the first ones. -/
theorem countP_started {start : Nat → Nat} (ordered : ∀ {one other}, one ≤ other →
      start one ≤ start other) (now limit : Nat) :
    (((List.range limit).map (· + 1)).countP fun place => start place ≤ now) ≤ limit ∧
      ∀ place, 1 ≤ place → place ≤ limit →
        (start place ≤ now ↔
          place ≤ ((List.range limit).map (· + 1)).countP fun place => start place ≤ now) := by
  induction limit with
  | zero =>
      refine ⟨Nat.le_refl 0, ?_⟩
      intro place counted within
      omega
  | succ limit ih =>
      obtain ⟨bounded, started⟩ := ih
      have step : (((List.range (limit + 1)).map (· + 1)).countP fun place => start place ≤ now) =
          (((List.range limit).map (· + 1)).countP fun place => start place ≤ now) +
            if start (limit + 1) ≤ now then 1 else 0 := by
        rw [List.range_succ, List.map_append, List.countP_append]
        simp [List.countP_cons]
      rw [step]
      -- Once the last one has started, so have all before it.
      by_cases last : start (limit + 1) ≤ now
      · have all : (((List.range limit).map (· + 1)).countP fun place => start place ≤ now) =
            limit := by
          by_cases none : limit = 0
          · omega
          · have before := (started limit (by omega) (Nat.le_refl limit)).mp
              (Nat.le_trans (ordered (Nat.le_succ limit)) last)
            omega
        rw [all, if_pos last]
        refine ⟨Nat.le_refl _, fun place _ within => ⟨fun _ => within, fun _ => ?_⟩⟩
        exact Nat.le_trans (ordered within) last
      · rw [if_neg last, Nat.add_zero]
        refine ⟨Nat.le_succ_of_le bounded, fun place counted within => ?_⟩
        by_cases here : place = limit + 1
        · rw [here]
          omega
        · exact started place counted (by omega)

theorem monthAndDay_spec {dayOfYear : Nat} (within : dayOfYear < daysBeforeMonth year 13) :
    1 ≤ (monthAndDay year dayOfYear).1 ∧ (monthAndDay year dayOfYear).1 ≤ 12 ∧
      daysBeforeMonth year (monthAndDay year dayOfYear).1 ≤ dayOfYear ∧
      dayOfYear < daysBeforeMonth year ((monthAndDay year dayOfYear).1 + 1) ∧
      (monthAndDay year dayOfYear).2 =
        dayOfYear - daysBeforeMonth year (monthAndDay year dayOfYear).1 + 1 := by
  obtain ⟨bounded, started⟩ := countP_started (daysBeforeMonth_mono year) dayOfYear 12
  change (monthAndDay year dayOfYear).1 ≤ 12 at bounded
  change ∀ place, 1 ≤ place → place ≤ 12 → (daysBeforeMonth year place ≤ dayOfYear ↔
    place ≤ (monthAndDay year dayOfYear).1) at started
  have positive : 1 ≤ (monthAndDay year dayOfYear).1 :=
    (started 1 (Nat.le_refl 1) (by decide)).mp (Nat.zero_le dayOfYear)
  refine ⟨positive, bounded, (started _ positive bounded).mpr (Nat.le_refl _), ?_, rfl⟩
  by_cases last : (monthAndDay year dayOfYear).1 = 12
  · rw [last]
    exact within
  · have next := started ((monthAndDay year dayOfYear).1 + 1) (by omega) (by omega)
    omega

theorem monthAndDay_eq {month dayOfYear : Nat} (counted : 1 ≤ month) (known : month ≤ 12)
    (begun : daysBeforeMonth year month ≤ dayOfYear)
    (goesOn : dayOfYear < daysBeforeMonth year (month + 1)) :
    monthAndDay year dayOfYear = (month, dayOfYear - daysBeforeMonth year month + 1) := by
  have within : dayOfYear < daysBeforeMonth year 13 :=
    Nat.lt_of_lt_of_le goesOn (daysBeforeMonth_mono year (by omega))
  obtain ⟨_, _, found, notEnded, isDay⟩ := monthAndDay_spec within
  have same : (monthAndDay year dayOfYear).1 = month := by
    rcases Nat.lt_trichotomy (monthAndDay year dayOfYear).1 month with before | same | after
    · have ended : daysBeforeMonth year ((monthAndDay year dayOfYear).1 + 1) ≤
          daysBeforeMonth year month := daysBeforeMonth_mono year before
      omega
    · exact same
    · have ended : daysBeforeMonth year (month + 1) ≤
          daysBeforeMonth year (monthAndDay year dayOfYear).1 := daysBeforeMonth_mono year after
      omega
  rw [same] at isDay
  exact Prod.ext same isDay

theorem isValid_iff (date : Date) :
    isValid date = true ↔ 1 ≤ date.month ∧ date.month ≤ 12 ∧ 1 ≤ date.day ∧
      date.day ≤ daysInMonth date.year date.month := by
  simp [isValid, and_assoc]

theorem toNat_dayOfYear_lt (day : Int) :
    (day - daysBeforeYear (yearOf day)).toNat < daysBeforeMonth (yearOf day) 13 := by
  have spec := yearOf_spec day
  have whole := daysBeforeMonth_thirteen (yearOf day)
  rw [daysBeforeYear_succ] at spec
  omega

theorem isValid_dateOf (day : Int) : isValid (dateOf day) = true := by
  obtain ⟨counted, known, begun, goesOn, isDay⟩ := monthAndDay_spec (toNat_dayOfYear_lt day)
  rw [isValid_iff]
  rw [daysBeforeMonth_succ _ counted] at goesOn
  refine ⟨counted, known, ?_, ?_⟩
  · change 1 ≤ (monthAndDay (yearOf day) _).2
    omega
  · change (monthAndDay (yearOf day) _).2 ≤
      daysInMonth (yearOf day) (monthAndDay (yearOf day) _).1
    omega

theorem dayNumber_dateOf (day : Int) : dayNumber (dateOf day) = day := by
  obtain ⟨_, _, begun, _, isDay⟩ := monthAndDay_spec (toNat_dayOfYear_lt day)
  have spec := yearOf_spec day
  change daysBeforeYear (yearOf day) +
    (daysBeforeMonth (yearOf day) (monthAndDay (yearOf day) _).1 : Int) +
      (((monthAndDay (yearOf day) _).2 : Int) - 1) = day
  omega

theorem dateOf_dayNumber {date : Date} (valid : isValid date = true) :
    dateOf (dayNumber date) = date := by
  obtain ⟨year, month, day⟩ := date
  obtain ⟨counted, known, first, last⟩ := (isValid_iff _).mp valid
  dsimp only at counted known first last
  have number : dayNumber ⟨year, month, day⟩ =
      daysBeforeYear year + daysBeforeMonth year month + (day - 1) := rfl
  have month_succ := daysBeforeMonth_succ year counted
  have isYear : yearOf (dayNumber ⟨year, month, day⟩) = year := by
    have ended : daysBeforeMonth year (month + 1) ≤ daysBeforeMonth year 13 :=
      daysBeforeMonth_mono year (Nat.succ_le_succ known)
    have whole := daysBeforeMonth_thirteen year
    have year_succ := daysBeforeYear_succ year
    apply yearOf_eq
    · omega
    · omega
  have offset : (dayNumber ⟨year, month, day⟩ - daysBeforeYear year).toNat =
      daysBeforeMonth year month + (day - 1) := by
    omega
  have parts : monthAndDay year (daysBeforeMonth year month + (day - 1)) = (month, day) := by
    rw [monthAndDay_eq counted known (by omega) (by omega), Nat.add_sub_cancel_left,
      Nat.sub_add_cancel first]
  simp only [dateOf, isYear, offset, parts]

end Formula.Calendar
