import Formula.Library.Moments
import Formula.Proofs.Time.Calendar
import Formula.Proofs.Time.Spans

/-!
Ticks number the instants between the years 1 and 9999: every number in their range is that of
one instant on the calendar, and to move an instant by a span, or to measure how far apart two
are, is to add or to subtract their ticks.
-/

namespace Formula

namespace DateTime

open TimeSpan

/-- A time of day on a day of the years 1 to 9999. -/
structure Timely (moment : DateTime) : Prop where
  year_pos : 1 ≤ moment.calendarDate.year
  year_le : moment.calendarDate.year ≤ 9999
  second_lt : moment.second < 86400

/-- The ticks past the second, no more than the last one in it. -/
def tickOfSecond (moment : DateTime) : Nat :=
  min moment.nanosecond 999999999 / 100

/-- The nanoseconds that the ticks leave out: less than a hundred of them, but for leap seconds. -/
def pastTick (moment : DateTime) : Nat :=
  moment.nanosecond - moment.tickOfSecond * 100

variable {moment other : DateTime}

theorem tickOfSecond_lt (moment : DateTime) : moment.tickOfSecond < 10000000 := by
  unfold tickOfSecond
  omega

theorem ticks_eq (moment : DateTime) :
    moment.ticks = moment.day * 864000000000 + moment.second * 10000000 + moment.tickOfSecond :=
  rfl

theorem year_mem_iff (moment : DateTime) :
    1 ≤ moment.calendarDate.year ∧ moment.calendarDate.year ≤ 9999 ↔
      0 ≤ moment.day ∧ moment.day < dayLimit := by
  have first : Calendar.daysBeforeYear 1 = 0 := rfl
  have limit : Calendar.daysBeforeYear 10000 = dayLimit := rfl
  have isYear : moment.calendarDate.year = Calendar.yearOf moment.day := rfl
  have begun := Calendar.le_yearOf_iff 1 moment.day
  have ended := Calendar.le_yearOf_iff 10000 moment.day
  rw [isYear]
  omega

theorem timely_iff (moment : DateTime) :
    moment.Timely ↔ 0 ≤ moment.day ∧ moment.day < 3652059 ∧ moment.second < 86400 := by
  have years := year_mem_iff moment
  constructor
  · rintro ⟨first, last, second⟩
    obtain ⟨begun, notEnded⟩ := years.mp ⟨first, last⟩
    exact ⟨begun, notEnded, second⟩
  · rintro ⟨begun, notEnded, second⟩
    obtain ⟨first, last⟩ := years.mpr ⟨begun, notEnded⟩
    exact ⟨first, last, second⟩

theorem Timely.ticks_mem (timely : moment.Timely) :
    0 ≤ moment.ticks ∧ moment.ticks ≤ 3155378975999999999 := by
  obtain ⟨begun, notEnded, second⟩ := (timely_iff moment).mp timely
  have tick := tickOfSecond_lt moment
  rw [ticks_eq]
  omega

/-- The ticks of a date and of a time of day on it, in hours, minutes, seconds and ticks. -/
def ticksOf (date : Date) (hour minute second tick : Nat) : Int :=
  Calendar.dayNumber date * ticksPerDay + hour * ticksPerHour + minute * ticksPerMinute +
    second * ticksPerSecond + tick

theorem ticks_clock (moment : DateTime) :
    moment.ticks = ticksOf moment.calendarDate moment.hour moment.minute moment.secondOfMinute
      moment.tickOfSecond := by
  have isDay : Calendar.dayNumber moment.calendarDate = moment.day :=
    Calendar.dayNumber_dateOf moment.day
  rw [ticks_eq, ticksOf, isDay]
  simp only [hour, minute, secondOfMinute, ticksPerDay_eq, ticksPerHour_eq, ticksPerMinute_eq,
    ticksPerSecond_eq]
  omega

theorem ofTicks_of_mem {ticks : Int} (range : 0 ≤ ticks ∧ ticks ≤ 3155378975999999999)
    (kind : DateTimeKind) :
    ofTicks ticks kind = .ok
      { day := ticks / 864000000000
        second := (ticks % 864000000000 / 10000000).toNat
        nanosecond := (ticks % 864000000000 % 10000000 * 100).toNat
        kind := kind } :=
  if_pos range

theorem ofTicks_of_not_mem {ticks : Int} (outside : ¬(0 ≤ ticks ∧ ticks ≤ 3155378975999999999))
    (kind : DateTimeKind) : ofTicks ticks kind = .error (.malformed .dateOutOfRange) :=
  if_neg outside

theorem ofTicks_mem {ticks : Int} {kind : DateTimeKind} (made : ofTicks ticks kind = .ok moment) :
    0 ≤ ticks ∧ ticks ≤ 3155378975999999999 := by
  by_cases range : 0 ≤ ticks ∧ ticks ≤ 3155378975999999999
  · exact range
  · rw [ofTicks_of_not_mem range] at made
    cases made

theorem ofTicks_isOk_iff (ticks : Int) (kind : DateTimeKind) :
    (∃ moment, ofTicks ticks kind = .ok moment) ↔ 0 ≤ ticks ∧ ticks ≤ greatestTicks := by
  constructor
  · rintro ⟨moment, made⟩
    exact ofTicks_mem made
  · intro range
    exact ⟨_, ofTicks_of_mem range kind⟩

theorem ofTicks_spec {ticks : Int} {kind : DateTimeKind} (made : ofTicks ticks kind = .ok moment) :
    moment.Timely ∧ moment.ticks = ticks ∧ moment.kind = kind ∧ moment.pastTick = 0 := by
  have range := ofTicks_mem made
  rw [ofTicks_of_mem range kind, Except.ok.injEq] at made
  subst made
  rw [timely_iff, ticks_eq]
  unfold pastTick tickOfSecond
  dsimp only
  refine ⟨?_, ?_, rfl, ?_⟩
  · omega
  · omega
  · omega

theorem ofTicks_ticksOf {date : Date} {hour minute second tick : Nat}
    (valid : Calendar.isValid date = true) (years : 1 ≤ date.year ∧ date.year ≤ 9999)
    (hours : hour < 24) (minutes : minute < 60) (seconds : second < 60) (ticks : tick < 10000000)
    (kind : DateTimeKind) :
    ∃ moment, ofTicks (ticksOf date hour minute second tick) kind = .ok moment ∧
      moment.calendarDate = date ∧ moment.hour = hour ∧ moment.minute = minute ∧
      moment.secondOfMinute = second ∧ moment.tickOfSecond = tick := by
  let moment : DateTime :=
    { day := Calendar.dayNumber date
      second := hour * 3600 + minute * 60 + second
      nanosecond := tick * 100
      kind := kind }
  have isDate : moment.calendarDate = date := Calendar.dateOf_dayNumber valid
  have inside := (year_mem_iff moment).mp (by rw [isDate]; exact years)
  change 0 ≤ Calendar.dayNumber date ∧ Calendar.dayNumber date < 3652059 at inside
  refine ⟨moment, ?_, isDate, ?_, ?_, ?_, ?_⟩
  · simp only [ticksOf, ticksPerDay_eq, ticksPerHour_eq, ticksPerMinute_eq, ticksPerSecond_eq]
    rw [ofTicks_of_mem (by omega), Except.ok.injEq, mk.injEq]
    refine ⟨?_, ?_, ?_, rfl⟩
    · omega
    · omega
    · omega
  · change (hour * 3600 + minute * 60 + second) / 3600 = hour
    omega
  · change (hour * 3600 + minute * 60 + second) / 60 % 60 = minute
    omega
  · change (hour * 3600 + minute * 60 + second) % 60 = second
    omega
  · change min (tick * 100) 999999999 / 100 = tick
    omega

theorem order_of_ticks_lt (bounded : moment.second < 86400) (boundedOther : other.second < 86400)
    (before : moment.ticks < other.ticks) : moment.order other = .lt := by
  have tick := tickOfSecond_lt moment
  have tickOther := tickOfSecond_lt other
  rw [ticks_eq, ticks_eq] at before
  unfold tickOfSecond at before tick tickOther
  simp only [order, Ordering.then_eq_lt, Int.compare_eq_lt, Int.compare_eq_eq, Nat.compare_eq_lt,
    Nat.compare_eq_eq]
  omega

theorem order_swap (left right : DateTime) : (left.order right).swap = right.order left := by
  simp only [order, Ordering.swap_then, Int.compare_swap, Nat.compare_swap]

theorem order_of_ticks_eq (bounded : moment.second < 86400) (boundedOther : other.second < 86400)
    (same : moment.ticks = other.ticks) :
    moment.order other = compare moment.pastTick other.pastTick := by
  have tick := tickOfSecond_lt moment
  have tickOther := tickOfSecond_lt other
  rw [ticks_eq, ticks_eq] at same
  have sameDay : moment.day = other.day := by omega
  have sameSecond : moment.second = other.second := by omega
  have sameTick : moment.tickOfSecond = other.tickOfSecond := by omega
  have shown : moment.nanosecond = moment.tickOfSecond * 100 + moment.pastTick := by
    unfold pastTick tickOfSecond
    omega
  have shownOther : other.nanosecond = moment.tickOfSecond * 100 + other.pastTick := by
    rw [sameTick]
    unfold pastTick tickOfSecond
    omega
  rw [order, Int.compare_eq_eq.mpr sameDay, Nat.compare_eq_eq.mpr sameSecond, shown, shownOther]
  change compare _ _ = _
  rcases Nat.lt_trichotomy moment.pastTick other.pastTick with before | equal | after
  · rw [Nat.compare_eq_lt.mpr before, Nat.compare_eq_lt.mpr (Nat.add_lt_add_left before _)]
  · rw [equal, Nat.compare_eq_eq.mpr rfl, Nat.compare_eq_eq.mpr rfl]
  · rw [Nat.compare_eq_gt.mpr after, Nat.compare_eq_gt.mpr (Nat.add_lt_add_left after _)]

/-- Instants are ordered by their ticks first, and then by what the ticks leave out. -/
theorem order_eq (bounded : moment.second < 86400) (boundedOther : other.second < 86400) :
    moment.order other =
      (compare moment.ticks other.ticks).then (compare moment.pastTick other.pastTick) := by
  rcases Int.lt_trichotomy moment.ticks other.ticks with before | same | after
  · rw [order_of_ticks_lt bounded boundedOther before, Int.compare_eq_lt.mpr before]
    rfl
  · rw [order_of_ticks_eq bounded boundedOther same, Int.compare_eq_eq.mpr same]
    rfl
  · rw [← order_swap, order_of_ticks_lt boundedOther bounded after, Int.compare_eq_gt.mpr after]
    rfl

theorem shift_isOk_iff (moment : DateTime) (span : TimeSpan) :
    (∃ later, moment.shift span = .ok later) ↔
      0 ≤ moment.ticks + span.ticks ∧ moment.ticks + span.ticks ≤ greatestTicks :=
  ofTicks_isOk_iff _ _

theorem Timely.ticks_difference (timely : moment.Timely) (timelyOther : other.Timely) :
    (moment.difference other).ticks = moment.ticks - other.ticks := by
  have range := timely.ticks_mem
  have rangeOther := timelyOther.ticks_mem
  apply ticks_wrap
  rw [holds_iff]
  omega

theorem ticks_timeOfDay (moment : DateTime) :
    moment.timeOfDay.ticks = moment.ticks % 864000000000 := by
  apply ticks_wrap
  rw [holds_iff, ticksPerDay_eq]
  omega

theorem ticks_date (moment : DateTime) : moment.date.ticks = moment.day * 864000000000 := by
  simp [ticks_eq, date, tickOfSecond]

theorem Timely.shift_difference (timely : moment.Timely) (timelyOther : other.Timely) :
    ∃ reached, moment.shift (other.difference moment) = .ok reached ∧
      reached.ticks = other.ticks := by
  have range := timelyOther.ticks_mem
  have sum : moment.ticks + (other.difference moment).ticks = other.ticks := by
    rw [timelyOther.ticks_difference timely]
    omega
  have made := ofTicks_of_mem range moment.kind
  rw [← sum] at made
  exact ⟨_, made, (ofTicks_spec made).2.1.trans sum⟩

theorem Timely.shift_timeOfDay (timely : moment.Timely) :
    ∃ whole, moment.date.shift moment.timeOfDay = .ok whole ∧ whole.ticks = moment.ticks := by
  obtain ⟨_, _, second⟩ := (timely_iff moment).mp timely
  have tick := tickOfSecond_lt moment
  have sum : moment.date.ticks + moment.timeOfDay.ticks = moment.ticks := by
    rw [ticks_date, ticks_timeOfDay, ticks_eq]
    omega
  have made := ofTicks_of_mem timely.ticks_mem moment.kind
  rw [← sum] at made
  exact ⟨_, made, (ofTicks_spec made).2.1.trans sum⟩

theorem subtractSpan_of_ne {span : TimeSpan} (notLeast : span ≠ least) :
    ∃ opposite, span.negate = .ok opposite ∧ opposite.ticks = -span.ticks ∧
      Library.subtractSpan moment span = moment.shift opposite := by
  have negated := negate_of_holds ((holds_neg_iff span).mpr notLeast)
  refine ⟨_, negated, rfl, ?_⟩
  rw [Library.subtractSpan, negated]
  rfl

/-- A number of ticks is that of one instant on the calendar if it is in range, or else of none. -/
structure NumbersInstant (ticks : Int) (kind : DateTimeKind) : Prop where
  isOk_iff : (∃ moment, ofTicks ticks kind = .ok moment) ↔ 0 ≤ ticks ∧ ticks ≤ greatestTicks
  spec : ∀ moment, ofTicks ticks kind = .ok moment →
    moment.Timely ∧ moment.ticks = ticks ∧ moment.kind = kind
  ordered : ∀ moment later laterKind other, ofTicks ticks kind = .ok moment →
    ofTicks later laterKind = .ok other → moment.order other = compare ticks later

/-- The instant has a date and a time that show its ticks. -/
structure ShowsTicks (moment : DateTime) : Prop where
  date_valid : Calendar.isValid moment.calendarDate = true
  hour_lt : moment.hour < 24
  minute_lt : moment.minute < 60
  second_lt : moment.secondOfMinute < 60
  sum : moment.ticks = ticksOf moment.calendarDate moment.hour moment.minute
    moment.secondOfMinute moment.tickOfSecond
  parts : ∃ whole, moment.date.shift moment.timeOfDay = .ok whole ∧ whole.ticks = moment.ticks

/-- The instant moves by the span exactly, or leaves the calendar. -/
structure MovesExactly (moment : DateTime) (span : TimeSpan) : Prop where
  isOk_iff : (∃ later, moment.shift span = .ok later) ↔
    0 ≤ moment.ticks + span.ticks ∧ moment.ticks + span.ticks ≤ greatestTicks
  spec : ∀ later, moment.shift span = .ok later →
    later.Timely ∧ later.ticks = moment.ticks + span.ticks ∧ later.kind = moment.kind ∧
      later.difference moment = span
  backwards : span ≠ least → ∃ opposite, span.negate = .ok opposite ∧
    opposite.ticks = -span.ticks ∧ Library.subtractSpan moment span = moment.shift opposite

/-- The distance between two instants is exact and leads from one to the other. -/
structure MeasuresExactly (moment other : DateTime) : Prop where
  ticks_eq : (moment.difference other).ticks = moment.ticks - other.ticks
  reaches : ∃ reached, other.shift (moment.difference other) = .ok reached ∧
    reached.ticks = moment.ticks

theorem numbersInstant (ticks : Int) (kind : DateTimeKind) : NumbersInstant ticks kind where
  isOk_iff := ofTicks_isOk_iff ticks kind
  spec := by
    intro moment made
    obtain ⟨timely, same, sameKind, _⟩ := ofTicks_spec made
    exact ⟨timely, same, sameKind⟩
  ordered := by
    intro moment later laterKind other made madeOther
    obtain ⟨timely, same, _, whole⟩ := ofTicks_spec made
    obtain ⟨timelyOther, sameOther, _, wholeOther⟩ := ofTicks_spec madeOther
    rw [order_eq timely.second_lt timelyOther.second_lt, same, sameOther, whole, wholeOther]
    simp

theorem Timely.showsTicks (timely : moment.Timely) : moment.ShowsTicks where
  date_valid := Calendar.isValid_dateOf moment.day
  hour_lt := by
    have second := timely.second_lt
    unfold hour
    omega
  minute_lt := Nat.mod_lt _ (by decide)
  second_lt := Nat.mod_lt _ (by decide)
  sum := ticks_clock moment
  parts := timely.shift_timeOfDay

theorem Timely.movesExactly (timely : moment.Timely) (span : TimeSpan) :
    moment.MovesExactly span where
  isOk_iff := shift_isOk_iff moment span
  spec := by
    intro later made
    obtain ⟨timelyLater, sum, sameKind, _⟩ := ofTicks_spec made
    refine ⟨timelyLater, sum, sameKind, ticks_inj.mp ?_⟩
    rw [timelyLater.ticks_difference timely, sum]
    omega
  backwards := subtractSpan_of_ne

/-- Ticks are a faithful encoding of the calendar from year 1 to year 9999, and moving instants
and measuring between them is exact in ticks. -/
theorem ticks_faithful :
    (∀ ticks kind, NumbersInstant ticks kind) ∧
      (∀ date hour minute second tick kind, Calendar.isValid date = true →
        1 ≤ date.year ∧ date.year ≤ 9999 → hour < 24 → minute < 60 → second < 60 →
          tick < 10000000 →
            ∃ moment, ofTicks (ticksOf date hour minute second tick) kind = .ok moment ∧
              moment.calendarDate = date ∧ moment.hour = hour ∧ moment.minute = minute ∧
              moment.secondOfMinute = second ∧ moment.tickOfSecond = tick) ∧
      ∀ moment : DateTime, moment.Timely →
        moment.ShowsTicks ∧ (∀ span, moment.MovesExactly span) ∧
          ∀ other : DateTime, other.Timely → moment.MeasuresExactly other := by
  refine ⟨numbersInstant, ?_, fun moment timely => ?_⟩
  · intro date hour minute second tick kind valid years hours minutes seconds ticks
    exact ofTicks_ticksOf valid years hours minutes seconds ticks kind
  refine ⟨timely.showsTicks, timely.movesExactly, fun other timelyOther => ?_⟩
  exact ⟨timely.ticks_difference timelyOther, timelyOther.shift_difference timely⟩

/-- The last nanosecond of a leap second that ends a leap day. -/
def leapDayEnd : DateTime :=
  { day := 730178, second := 86399, nanosecond := 1999999999, kind := .universal }

def calendarStart : DateTime :=
  { day := 0, second := 0, nanosecond := 0, kind := .unspecified }

/-- One tick on from the end of the leap day the first of March begins. -/
theorem ticks_faithful_leapDayEnd :
    leapDayEnd.Timely ∧ leapDayEnd.calendarDate = ⟨2000, 2, 29⟩ ∧
      (∃ later, leapDayEnd.shift ⟨1, by decide⟩ = .ok later ∧
        later.calendarDate = ⟨2000, 3, 1⟩ ∧ later.ticks = leapDayEnd.ticks + 1 ∧
        later.difference leapDayEnd = ⟨1, by decide⟩) ∧
      leapDayEnd.MeasuresExactly calendarStart := by
  have timely : leapDayEnd.Timely := (timely_iff _).mpr (by decide)
  have timelyStart : calendarStart.Timely := (timely_iff _).mpr (by decide)
  obtain ⟨_, moves, measures⟩ := ticks_faithful.2.2 leapDayEnd timely
  obtain ⟨later, moved⟩ := (moves ⟨1, by decide⟩).isOk_iff.mpr (by decide)
  obtain ⟨_, sum, _, distance⟩ := (moves ⟨1, by decide⟩).spec later moved
  refine ⟨timely, by decide +kernel, ⟨later, moved, ?_, sum, distance⟩,
    measures calendarStart timelyStart⟩
  have shown : leapDayEnd.shift ⟨1, by decide⟩ = .ok
      { day := 730179, second := 0, nanosecond := 0, kind := .universal } := by
    decide +kernel
  rw [moved, Except.ok.injEq] at shown
  rw [shown]
  decide +kernel

end DateTime

end Formula
