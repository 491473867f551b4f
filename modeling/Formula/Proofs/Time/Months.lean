import Formula.Proofs.Library.Installation
import Formula.Proofs.Time.Reading

/-!
Moving by months. All months are numbered in one row, and an instant moves along it: the day gives
way where the month that is reached is too short for it, and the time of day stays. A month is as
long as the first of the next one is away from its own, and February has its leap day in the years
that count as leap years.
-/

namespace Formula

namespace Calendar

variable {date : Date}

/-- The number of the month of a date. The first month of the year one is number zero. -/
def monthNumber (date : Date) : Int :=
  12 * (date.year - 1) + (date.month - 1)

theorem daysInMonth_february (year : Int) :
    daysInMonth year 2 = 29 ↔ isLeapYear year = true := by
  simp [daysInMonth]

theorem isValid_leapDay (year : Int) :
    isValid ⟨year, 2, 29⟩ = true ↔ isLeapYear year = true := by
  cases leap : isLeapYear year <;> simp [isValid, daysInMonth, leap]

theorem min_one_daysInMonth (year : Int) (month : Nat) : min 1 (daysInMonth year month) = 1 := by
  have length := daysInMonth_mem year month
  omega

theorem addMonths_eq (date : Date) (months : Int) :
    addMonths date months =
      { year := (monthNumber date + months) / 12 + 1
        month := ((monthNumber date + months) % 12).toNat + 1
        day := min date.day (daysInMonth ((monthNumber date + months) / 12 + 1)
          (((monthNumber date + months) % 12).toNat + 1)) } := by
  have count : date.year * 12 + (date.month - 1) + months =
      monthNumber date + months + 12 := by
    unfold monthNumber
    omega
  have year : (monthNumber date + months + 12) / 12 = (monthNumber date + months) / 12 + 1 := by
    omega
  have month : (monthNumber date + months + 12) % 12 = (monthNumber date + months) % 12 := by
    omega
  simp only [addMonths, count, year, month]

theorem isValid_addMonths (valid : isValid date = true) (months : Int) :
    isValid (addMonths date months) = true := by
  obtain ⟨_, _, first, _⟩ := (isValid_iff date).mp valid
  rw [addMonths_eq, isValid_iff]
  have length := daysInMonth_mem ((monthNumber date + months) / 12 + 1)
    (((monthNumber date + months) % 12).toNat + 1)
  dsimp only
  omega

/-- The first of the next month comes after all days of this one. -/
theorem dayNumber_nextMonth (year : Int) {month : Nat} (counted : 1 ≤ month) (known : month ≤ 12) :
    dayNumber (addMonths ⟨year, month, 1⟩ 1) =
      dayNumber ⟨year, month, 1⟩ + daysInMonth year month := by
  have monthEnd := daysBeforeMonth_succ year counted
  rw [addMonths_eq]
  by_cases last : month = 12
  · subst last
    have nextYear : (monthNumber ⟨year, 12, 1⟩ + 1) / 12 + 1 = year + 1 := by
      simp only [monthNumber]
      omega
    have january : ((monthNumber ⟨year, 12, 1⟩ + 1) % 12).toNat + 1 = 1 := by
      simp only [monthNumber]
      omega
    have yearEnd := daysBeforeMonth_thirteen year
    rw [nextYear, january, min_one_daysInMonth]
    simp only [dayNumber, daysBeforeYear_succ, ← yearEnd, monthEnd, daysBeforeMonth]
    omega
  · have sameYear : (monthNumber ⟨year, month, 1⟩ + 1) / 12 + 1 = year := by
      simp only [monthNumber]
      omega
    have nextMonth : ((monthNumber ⟨year, month, 1⟩ + 1) % 12).toNat + 1 = month + 1 := by
      simp only [monthNumber]
      omega
    rw [sameYear, nextMonth, min_one_daysInMonth]
    simp only [dayNumber, monthEnd]
    omega

theorem kept_of_year {year : Int} (inside : 1 ≤ year ∧ year ≤ 9999) :
    leastYear ≤ year ∧ year ≤ greatestYear :=
  ⟨Int.le_trans (by decide) inside.1, Int.le_trans inside.2 (by decide)⟩

theorem ofParts?_eq_some {year : Int} {month day : Nat} :
    ofParts? year month day = some date ↔
      (leastYear ≤ year ∧ year ≤ greatestYear ∧ isValid ⟨year, month, day⟩) ∧
        ⟨year, month, day⟩ = date := by
  unfold ofParts?
  split
  · next kept => simp only [kept, and_self, true_and, Option.some.injEq]
  · next lost => simp only [lost, false_and, reduceCtorEq]

theorem shiftMonths?_natAbs (date : Date) (months : Int) :
    (if months < 0 then monthsEarlier? date months.natAbs else monthsLater? date months.natAbs) =
      shiftMonths? date months := by
  unfold monthsEarlier? monthsLater?
  split
  · rw [show -(months.natAbs : Int) = months by omega]
  · rw [show (months.natAbs : Int) = months by omega]

theorem shiftMonths?_eq_some (valid : isValid date = true) {months : Int} {later : Date} :
    shiftMonths? date months = some later ↔
      (leastYear ≤ later.year ∧ later.year ≤ greatestYear) ∧ addMonths date months = later := by
  unfold shiftMonths?
  extract_lets shifted
  rw [ofParts?_eq_some]
  constructor
  · rintro ⟨⟨least, greatest, _⟩, rfl⟩
    exact ⟨⟨least, greatest⟩, rfl⟩
  · rintro ⟨⟨least, greatest⟩, rfl⟩
    exact ⟨⟨least, greatest, isValid_addMonths valid months⟩, rfl⟩

theorem isValid_first {year : Int} {month : Nat} (counted : 1 ≤ month) (known : month ≤ 12) :
    isValid ⟨year, month, 1⟩ = true := by
  have length := daysInMonth_mem year month
  rw [isValid_iff]
  dsimp only
  omega

theorem monthLength_eq {year month : Int}
    (inside : 1 ≤ year ∧ year ≤ 9999 ∧ 1 ≤ month ∧ month ≤ 12) :
    monthLength year month = .ok (daysInMonth year month.toNat) := by
  have valid : isValid ⟨year, month.toNat, 1⟩ = true := isValid_first (by omega) (by omega)
  obtain ⟨least, greatest⟩ := kept_of_year ⟨inside.1, inside.2.1⟩
  have first : ofParts? year month.toNat 1 = some ⟨year, month.toNat, 1⟩ :=
    ofParts?_eq_some.mpr ⟨⟨least, greatest, valid⟩, rfl⟩
  have next : monthsLater? ⟨year, month.toNat, 1⟩ 1 =
      some (addMonths ⟨year, month.toNat, 1⟩ 1) := by
    refine (shiftMonths?_eq_some valid).mpr ⟨?_, rfl⟩
    rw [addMonths_eq]
    simp only [monthNumber, leastYear, greatestYear]
    omega
  have length : dayNumber (addMonths ⟨year, month.toNat, 1⟩ 1) = _ :=
    dayNumber_nextMonth year (by omega) (by omega)
  simp only [monthLength, if_pos inside, first, next, Option.getD_some, Except.ok.injEq]
  omega

theorem monthLength_eq_ok {year month : Int} {length : Nat} :
    monthLength year month = .ok length ↔
      ((1 ≤ year ∧ year ≤ 9999) ∧ 1 ≤ month ∧ month ≤ 12) ∧
        daysInMonth year month.toNat = length := by
  by_cases inside : 1 ≤ year ∧ year ≤ 9999 ∧ 1 ≤ month ∧ month ≤ 12
  · rw [monthLength_eq inside, Except.ok.injEq]
    simp only [inside, and_self, true_and]
  · rw [monthLength, if_neg inside]
    simp only [reduceCtorEq, false_iff]
    grind

theorem leapYear_eq_ok {year : Int} {leap : Bool} :
    leapYear year = .ok leap ↔ (1 ≤ year ∧ year ≤ 9999) ∧ isLeapYear year = leap := by
  unfold leapYear
  split
  · next inside =>
      obtain ⟨least, greatest⟩ := kept_of_year inside
      have leapDay : (ofParts? year 2 29).isSome = isLeapYear year := by
        rw [Bool.eq_iff_iff, ← isValid_leapDay, Option.isSome_iff_exists]
        simp only [ofParts?_eq_some, exists_and_left, exists_eq', and_true]
        exact ⟨fun kept => kept.2.2, fun valid => ⟨least, greatest, valid⟩⟩
      simp only [leapDay, inside, and_self, true_and, Except.ok.injEq]
  · next outside => simp only [outside, false_and, reduceCtorEq]

end Calendar

namespace DateTime

variable {moment later : DateTime}

/-- The instant on the day that is so many months away, which may be off the calendar. -/
def movedBy (moment : DateTime) (months : Int) : DateTime :=
  { moment with day := Calendar.dayNumber (Calendar.addMonths moment.calendarDate months) }

theorem calendarDate_movedBy (moment : DateTime) (months : Int) :
    (moment.movedBy months).calendarDate = Calendar.addMonths moment.calendarDate months :=
  Calendar.dateOf_dayNumber (Calendar.isValid_addMonths (Calendar.isValid_dateOf _) months)

theorem timeOfDay_movedBy (moment : DateTime) (months : Int) :
    (moment.movedBy months).timeOfDay = moment.timeOfDay := by
  rw [← TimeSpan.ticks_inj, ticks_timeOfDay, ticks_timeOfDay, ticks_eq, ticks_eq]
  change (_ + (moment.second : Int) * 10000000 + (moment.tickOfSecond : Int)) % 864000000000 = _
  omega

/-- The day that is reached decides, since the years that dates can have at all reach beyond those
of instants. -/
theorem addMonths_eq_checked (moment : DateTime) (months : Int) :
    moment.addMonths months = checked (moment.movedBy months) := by
  have valid : Calendar.isValid moment.calendarDate = true := Calendar.isValid_dateOf _
  have years := year_mem_iff (moment.movedBy months)
  rw [calendarDate_movedBy] at years
  unfold addMonths
  rw [Calendar.shiftMonths?_natAbs]
  dsimp only
  split
  · next later shifted =>
      obtain ⟨_, rfl⟩ := (Calendar.shiftMonths?_eq_some valid).mp shifted
      rfl
  · next unshifted =>
      have outside : ¬(0 ≤ (moment.movedBy months).day ∧
          (moment.movedBy months).day < dayLimit) := by
        rw [← years]
        intro inside
        exact Option.eq_none_iff_forall_ne_some.mp unshifted _
          ((Calendar.shiftMonths?_eq_some valid).mpr ⟨Calendar.kept_of_year inside, rfl⟩)
      exact (if_neg outside).symm

theorem addMonths_eq_ok {months : Int} :
    moment.addMonths months = .ok later ↔
      (0 ≤ Calendar.monthNumber moment.calendarDate + months ∧
        Calendar.monthNumber moment.calendarDate + months < 12 * 9999) ∧
        moment.movedBy months = later := by
  have years := year_mem_iff (moment.movedBy months)
  rw [calendarDate_movedBy, Calendar.addMonths_eq] at years
  rw [addMonths_eq_checked, checked_eq_ok, ← years]
  refine and_congr_left fun _ => ?_
  dsimp only
  omega

/-- What the methods that instants have under a name make of a call. -/
def responses (zone : TimeZone) (now : DateTime) (name : String) (call : Invocation) :
    List (Outcome Value) :=
  ((Library.momentEntry zone now).methods.filter (·.isNamed name)).map (·.body call)

def callWith (moment : DateTime) (site : List Nat) (origin : Origin) (number : Integer) :
    Invocation :=
  { site := site
    receiver := some (.object origin .dateTime (.moment moment))
    arguments := [.integer number] }

def staticCallWith (site : List Nat) (numbers : List Integer) : Invocation :=
  { site := site, receiver := none, arguments := numbers.map .integer }

section

variable (zone : TimeZone) (now moment : DateTime) (site : List Nat) (origin : Origin)
  {number other : Int} (holds : IntegerKind.int32.Holds number)

theorem responses_addMonths :
    responses zone now "AddMonths" (moment.callWith site origin ⟨.int32, number, holds⟩) =
      [(moment.addMonths number).map (Shape.moment.write site)] :=
  Library.bodies_momentEntry zone now (by decide +kernel) _

theorem responses_addYears :
    responses zone now "AddYears" (moment.callWith site origin ⟨.int32, number, holds⟩) =
      [(moment.addYears number).map (Shape.moment.write site)] :=
  Library.bodies_momentEntry zone now (by decide +kernel) _

theorem responses_isLeapYear :
    responses zone now "IsLeapYear" (staticCallWith site [⟨.int32, number, holds⟩]) =
      [(Calendar.leapYear number).map .boolean] :=
  Library.bodies_momentEntry zone now (by decide +kernel) _

theorem responses_daysInMonth (holdsOther : IntegerKind.int32.Holds other) :
    responses zone now "DaysInMonth"
        (staticCallWith site [⟨.int32, number, holds⟩, ⟨.int32, other, holdsOther⟩]) =
      [(Calendar.monthLength number other).map fun length => .int32 length] := by
  rw [responses, Library.bodies_momentEntry zone now (by decide +kernel)]
  change [(do return Shape.int32.write site (← Int.ofNat <$> Calendar.monthLength number other))] =
    _
  cases Calendar.monthLength number other <;> rfl

end

/-- A number of months leads to the month that is so many further on in the row, if that is one of
the years 1 to 9999. -/
structure MovesByMonths (zone : TimeZone) (now moment : DateTime) (months : Int) : Prop where
  isOk_iff : (∃ later, moment.addMonths months = .ok later) ↔
    0 ≤ Calendar.monthNumber moment.calendarDate + months ∧
      Calendar.monthNumber moment.calendarDate + months < 12 * 9999
  spec : ∀ later, moment.addMonths months = .ok later →
    later.calendarDate.year = (Calendar.monthNumber moment.calendarDate + months) / 12 + 1 ∧
      later.calendarDate.month = (Calendar.monthNumber moment.calendarDate + months) % 12 + 1 ∧
      (∃ length, Calendar.monthLength later.calendarDate.year later.calendarDate.month =
        .ok length ∧ later.calendarDate.day = min moment.calendarDate.day length) ∧
      later.second = moment.second ∧ later.nanosecond = moment.nanosecond ∧
      later.timeOfDay = moment.timeOfDay ∧ later.kind = moment.kind
  response : ∀ site origin (holds : IntegerKind.int32.Holds months),
    responses zone now "AddMonths" (moment.callWith site origin ⟨.int32, months, holds⟩) =
      [(moment.addMonths months).map (Shape.moment.write site)]

/-- A year is twelve months, as long as 32 bits hold these. -/
structure MovesByYears (zone : TimeZone) (now moment : DateTime) (years : Int) : Prop where
  fits : IntegerKind.int32.Holds (12 * years) →
    moment.addYears years = moment.addMonths (12 * years)
  overflows : ¬IntegerKind.int32.Holds (12 * years) →
    moment.addYears years = .error (.malformed .dateOutOfRange)
  response : ∀ site origin (holds : IntegerKind.int32.Holds years),
    responses zone now "AddYears" (moment.callWith site origin ⟨.int32, years, holds⟩) =
      [(moment.addYears years).map (Shape.moment.write site)]

/-- The days of a month reach from its first to the first of the next month. -/
structure MeasuresMonth (zone : TimeZone) (now : DateTime) (year month : Int) : Prop where
  isOk_iff : (∃ length, Calendar.monthLength year month = .ok length) ↔
    (1 ≤ year ∧ year ≤ 9999) ∧ 1 ≤ month ∧ month ≤ 12
  spec : ∀ length, Calendar.monthLength year month = .ok length →
    Calendar.dayNumber (Calendar.addMonths ⟨year, month.toNat, 1⟩ 1) =
      Calendar.dayNumber ⟨year, month.toNat, 1⟩ + length
  response : ∀ site (holds : IntegerKind.int32.Holds year)
      (holdsMonth : IntegerKind.int32.Holds month),
    responses zone now "DaysInMonth"
        (staticCallWith site [⟨.int32, year, holds⟩, ⟨.int32, month, holdsMonth⟩]) =
      [(Calendar.monthLength year month).map fun length => .int32 length]

/-- A leap year is one in which February has 29 days, and so a last day of that number. -/
structure KnowsLeapDay (zone : TimeZone) (now : DateTime) (year : Int) : Prop where
  isOk_iff : (∃ leap, Calendar.leapYear year = .ok leap) ↔ 1 ≤ year ∧ year ≤ 9999
  february : Calendar.monthLength year 2 = .ok 29 ↔ Calendar.leapYear year = .ok true
  leapDay : Calendar.leapYear year = .ok true ↔
    (1 ≤ year ∧ year ≤ 9999) ∧ Calendar.isValid ⟨year, 2, 29⟩ = true
  response : ∀ site (holds : IntegerKind.int32.Holds year),
    responses zone now "IsLeapYear" (staticCallWith site [⟨.int32, year, holds⟩]) =
      [(Calendar.leapYear year).map .boolean]

variable (zone : TimeZone) (now : DateTime)

theorem movesByMonths (moment : DateTime) (months : Int) :
    MovesByMonths zone now moment months where
  isOk_iff := by
    simp only [addMonths_eq_ok, exists_and_left, exists_eq', and_true]
  spec := by
    intro later made
    obtain ⟨⟨begun, notEnded⟩, rfl⟩ := addMonths_eq_ok.mp made
    refine ⟨?_, ?_, ?_, rfl, rfl, timeOfDay_movedBy moment months, rfl⟩
    · rw [calendarDate_movedBy, Calendar.addMonths_eq]
    · rw [calendarDate_movedBy, Calendar.addMonths_eq]
      dsimp only
      omega
    · refine ⟨_, Calendar.monthLength_eq_ok.mpr ⟨?_, rfl⟩, ?_⟩
      · rw [calendarDate_movedBy, Calendar.addMonths_eq]
        dsimp only
        omega
      · rw [calendarDate_movedBy, Calendar.addMonths_eq]
        rfl
  response site origin := responses_addMonths zone now moment site origin

theorem movesByYears (moment : DateTime) (years : Int) :
    MovesByYears zone now moment years where
  fits holds := by
    rw [Int.mul_comm] at holds ⊢
    exact if_pos holds
  overflows tooMany := by
    rw [Int.mul_comm] at tooMany
    exact if_neg tooMany
  response site origin := responses_addYears zone now moment site origin

theorem measuresMonth (year month : Int) : MeasuresMonth zone now year month where
  isOk_iff := by
    simp only [Calendar.monthLength_eq_ok, exists_and_left, exists_eq', and_true]
  spec := by
    intro length measured
    obtain ⟨⟨_, first, last⟩, rfl⟩ := Calendar.monthLength_eq_ok.mp measured
    exact Calendar.dayNumber_nextMonth year (by omega) (by omega)
  response site := responses_daysInMonth zone now site

theorem knowsLeapDay (year : Int) : KnowsLeapDay zone now year where
  isOk_iff := by
    simp only [Calendar.leapYear_eq_ok, exists_and_left, exists_eq', and_true]
  february := by
    rw [Calendar.monthLength_eq_ok, Calendar.leapYear_eq_ok, ← Calendar.daysInMonth_february]
    exact and_congr_left fun _ => and_iff_left (by decide)
  leapDay := by
    rw [Calendar.leapYear_eq_ok, Calendar.isValid_leapDay]
  response site := responses_isLeapYear zone now site

/-- Months and years are added along the calendar, with the day cut to the length of the month, and
the lengths of months and the leap years that the library tells are those of the calendar. -/
theorem addMonths_followsCalendar :
    (∀ (moment : DateTime) number,
      MovesByMonths zone now moment number ∧ MovesByYears zone now moment number) ∧
      ∀ year, KnowsLeapDay zone now year ∧ ∀ month, MeasuresMonth zone now year month :=
  ⟨fun moment number =>
      ⟨movesByMonths zone now moment number, movesByYears zone now moment number⟩,
    fun year => ⟨knowsLeapDay zone now year, measuresMonth zone now year⟩⟩

/-- From the last day of January on, to months that are shorter and to the first month of all. -/
example :
    let start : DateTime := { day := 738915, second := 36000, nanosecond := 0, kind := .universal }
    let moved (months : Int) : Except Fault Date := calendarDate <$> start.addMonths months
    start.calendarDate = ⟨2024, 1, 31⟩ ∧ moved 1 = .ok ⟨2024, 2, 29⟩ ∧
      moved 13 = .ok ⟨2025, 2, 28⟩ ∧ moved (-2) = .ok ⟨2023, 11, 30⟩ ∧
      moved (-24276) = .ok ⟨1, 1, 31⟩ ∧
      moved (-24277) = .error (.malformed .dateOutOfRange) := by
  decide +kernel

end DateTime

end Formula
