import Formula.Proofs.Outcome
import Formula.Proofs.Time.Months

/-!
Instants compare by their ticks first and then by what the ticks leave out. Only a text brings in
an instant between two ticks: whatever is made of ticks, or moved by them, is a whole number of
them, and among whole numbers of ticks to compare instants is to compare their ticks.
-/

namespace Formula

namespace DateTime

variable {zone : TimeZone} {moment later left right : DateTime} {texts : String → Prop}

/-- What the members of an instant make of it, in a time zone. -/
inductive Step (zone : TimeZone) (moment : DateTime) : DateTime → Prop where
  | shift {later : DateTime} (span : TimeSpan) (made : moment.shift span = .ok later) :
      Step zone moment later
  | subtractSpan {later : DateTime} (span : TimeSpan)
      (made : Library.subtractSpan moment span = .ok later) : Step zone moment later
  | addUnits {later : DateTime} (count : Float) (ticksPerUnit : Int)
      (made : Library.addUnits moment count ticksPerUnit = .ok later) : Step zone moment later
  | addTicks {later : DateTime} (ticks : Int)
      (made : Library.addTicks moment ticks = .ok later) : Step zone moment later
  | addMonths {later : DateTime} (months : Int) (made : moment.addMonths months = .ok later) :
      Step zone moment later
  | addYears {later : DateTime} (years : Int) (made : moment.addYears years = .ok later) :
      Step zone moment later
  | date : Step zone moment moment.date
  | ofKind (kind : DateTimeKind) : Step zone moment { moment with kind := kind }
  | toUniversal {later : DateTime} (made : moment.toUniversal zone = .ok later) :
      Step zone moment later
  | toLocal {later : DateTime} (made : moment.toLocal zone = .ok later) : Step zone moment later

/-- The instants that the given texts and all numbers of ticks lead to in a time zone. -/
inductive Obtainable (zone : TimeZone) (texts : String → Prop) : DateTime → Prop where
  | ofText {text : String} {moment : DateTime} (given : texts text)
      (made : DateTime.ofText zone text = .ok moment) : Obtainable zone texts moment
  | ofTicks {ticks : Int} {kind : DateTimeKind} {moment : DateTime}
      (made : DateTime.ofTicks ticks kind = .ok moment) : Obtainable zone texts moment
  | step {moment later : DateTime} (obtainable : Obtainable zone texts moment)
      (step : moment.Step zone later) : Obtainable zone texts later

/-- The instant is on the calendar and within a day, and on the clock of a zone that keeps
minutes. -/
structure Settled (zone : TimeZone) (moment : DateTime) : Prop where
  timely : moment.Timely
  inDay : moment.InDay
  onClock : zone.KeepsMinutes → moment.OnClock

theorem pastTick_eq_zero_iff (moment : DateTime) :
    moment.pastTick = 0 ↔ moment.nanosecond < 1000000000 ∧ moment.nanosecond % 100 = 0 := by
  unfold pastTick tickOfSecond
  omega

theorem pastTick_lt_or (moment : DateTime) :
    moment.pastTick < 100 ∨ 1000000000 ≤ moment.nanosecond := by
  unfold pastTick tickOfSecond
  omega

theorem ofTicks_onClock {ticks : Int} {kind : DateTimeKind}
    (made : ofTicks ticks kind = .ok moment) : moment.OnClock := by
  obtain ⟨timely, _, _, whole⟩ := ofTicks_spec made
  have short := ((pastTick_eq_zero_iff moment).mp whole).1
  exact ⟨⟨timely.second_lt, by omega⟩, fun leap => by omega⟩

theorem ofTicks_settled {ticks : Int} {kind : DateTimeKind}
    (made : ofTicks ticks kind = .ok moment) : moment.Settled zone :=
  have onClock := ofTicks_onClock made
  ⟨(ofTicks_spec made).1, onClock.toInDay, fun _ => onClock⟩

/-- The later instant is at the same point of its second, and at the same second of its minute as
long as the zone keeps minutes. -/
structure Moved (zone : TimeZone) (moment later : DateTime) : Prop where
  timely : moment.Timely → later.Timely
  nanosecond_eq : later.nanosecond = moment.nanosecond
  secondOfMinute_eq : zone.KeepsMinutes → later.secondOfMinute = moment.secondOfMinute

theorem Moved.ofKind (moment : DateTime) (kind : DateTimeKind) :
    moment.Moved zone { moment with kind := kind } where
  timely timely := ⟨timely.year_pos, timely.year_le, timely.second_lt⟩
  nanosecond_eq := rfl
  secondOfMinute_eq _ := rfl

theorem Moved.addMonths {months : Int} (made : moment.addMonths months = .ok later) :
    moment.Moved zone later := by
  rw [addMonths_eq_checked] at made
  obtain ⟨inside, rfl⟩ := checked_eq_ok.mp made
  refine ⟨fun timely => ?_, rfl, fun _ => rfl⟩
  exact (timely_iff _).mpr ⟨inside.1, inside.2, timely.second_lt⟩

theorem Moved.ofClock {lead : Int} {kind : DateTimeKind}
    (made : checked { moment.ahead lead with kind := kind } = .ok later)
    (minutes : zone.KeepsMinutes → 60 ∣ lead) : moment.Moved zone later := by
  obtain ⟨inside, rfl⟩ := checked_eq_ok.mp made
  refine ⟨fun timely => ?_, rfl, fun keeps => secondOfMinute_ahead (minutes keeps)⟩
  refine (timely_iff _).mpr ⟨inside.1, inside.2, ?_⟩
  dsimp only [ahead]
  omega

theorem Moved.toUniversal (made : moment.toUniversal zone = .ok later) :
    moment.Moved zone later := by
  unfold DateTime.toUniversal at made
  split at made
  · cases made
    exact .ofKind moment moment.kind
  · split at made
    · next offset shown =>
        exact .ofClock made fun keeps => Int.dvd_neg.mpr (keeps.offsetShowing? _ _ shown)
    · cases made

theorem Moved.toLocal (made : moment.toLocal zone = .ok later) : moment.Moved zone later := by
  unfold DateTime.toLocal at made
  split at made
  · cases made
    exact .ofKind moment moment.kind
  · exact .ofClock made fun keeps => keeps.offsetAt _

theorem Moved.settled (moved : moment.Moved zone later) (settled : moment.Settled zone) :
    later.Settled zone := by
  have timely := moved.timely settled.timely
  have inDay : later.InDay :=
    ⟨timely.second_lt, moved.nanosecond_eq ▸ settled.inDay.nanosecond_lt⟩
  refine ⟨timely, inDay, fun keeps => ⟨inDay, fun leap => ?_⟩⟩
  rw [moved.nanosecond_eq] at leap
  rw [moved.secondOfMinute_eq keeps]
  exact (settled.onClock keeps).minuteEnd leap

/-- A step makes an instant of ticks, or goes back to the start of the day, or stays at the same
point of a second. -/
theorem Step.outcomes (step : moment.Step zone later) :
    (∃ ticks, ofTicks ticks moment.kind = .ok later) ∨ later = moment.date ∨
      moment.Moved zone later := by
  cases step with
  | shift span made => exact .inl ⟨_, made⟩
  | subtractSpan span made =>
      obtain ⟨opposite, _, made⟩ := bind_eq_ok.mp made
      exact .inl ⟨_, made⟩
  | addUnits count ticksPerUnit made =>
      unfold Library.addUnits at made
      split at made
      · exact .inl ⟨_, made⟩
      · cases made
  | addTicks ticks made => exact .inl ⟨_, made⟩
  | addMonths months made => exact .inr (.inr (.addMonths made))
  | addYears years made =>
      unfold DateTime.addYears at made
      split at made
      · exact .inr (.inr (.addMonths made))
      · cases made
  | date => exact .inr (.inl rfl)
  | ofKind kind => exact .inr (.inr (.ofKind moment kind))
  | toUniversal made => exact .inr (.inr (.toUniversal made))
  | toLocal made => exact .inr (.inr (.toLocal made))

theorem Step.settled (step : moment.Step zone later) (settled : moment.Settled zone) :
    later.Settled zone := by
  rcases step.outcomes with ⟨ticks, made⟩ | rfl | moved
  · exact ofTicks_settled made
  · obtain ⟨begun, notEnded, _⟩ := (timely_iff moment).mp settled.timely
    have inDay : moment.date.InDay := ⟨Nat.zero_lt_succ _, Nat.zero_lt_succ _⟩
    exact ⟨(timely_iff _).mpr ⟨begun, notEnded, inDay.second_lt⟩, inDay, fun _ => ⟨inDay, nofun⟩⟩
  · exact moved.settled settled

/-- No step leads from a whole number of ticks to another time within a tick. -/
theorem Step.pastTick_eq_zero (step : moment.Step zone later) (whole : moment.pastTick = 0) :
    later.pastTick = 0 := by
  rcases step.outcomes with ⟨ticks, made⟩ | rfl | moved
  · exact (ofTicks_spec made).2.2.2
  · exact (pastTick_eq_zero_iff _).mpr ⟨Nat.zero_lt_succ _, rfl⟩
  · rw [pastTick_eq_zero_iff] at whole ⊢
    rw [moved.nanosecond_eq]
    exact whole

theorem Obtainable.settled (obtainable : Obtainable zone texts moment) :
    moment.Settled zone := by
  induction obtainable with
  | ofText _ made =>
      obtain ⟨timely, inDay, onClock⟩ := ofText_spec made
      exact ⟨timely, inDay, onClock⟩
  | ofTicks made => exact ofTicks_settled made
  | step _ step ih => exact step.settled ih

/-- All the instants that a text can name are whole numbers of ticks. -/
def ReadsWholeTicks (zone : TimeZone) (text : String) : Prop :=
  ∀ moment, ofText zone text = .ok moment → moment.pastTick = 0

theorem Obtainable.pastTick_eq_zero (obtainable : Obtainable zone texts moment)
    (whole : ∀ text, texts text → ReadsWholeTicks zone text) : moment.pastTick = 0 := by
  induction obtainable with
  | ofText given made => exact whole _ given _ made
  | ofTicks made => exact (ofTicks_spec made).2.2.2
  | step _ step ih => exact step.pastTick_eq_zero ih

/-- What the methods that instants have under a name make of two of them. -/
def answers (zone : TimeZone) (now : DateTime) (name : String) (left right : DateTime) :
    List (Outcome Value) :=
  ((Library.momentEntry zone now).methods.filter (·.isNamed name)).map fun method =>
    method.body
      { site := []
        receiver := none
        arguments := [.object (.given 0) .dateTime (.moment left),
          .object (.given 1) .dateTime (.moment right)] }

variable (zone) (now left right : DateTime)

theorem answers_equality :
    answers zone now "op_Equality" left right = [.ok (.boolean (left.order right == .eq))] :=
  Library.bodies_momentEntry zone now (by decide +kernel) _

theorem answers_lessThan :
    answers zone now "op_LessThan" left right = [.ok (.boolean (left.order right == .lt))] :=
  Library.bodies_momentEntry zone now (by decide +kernel) _

theorem answers_compare :
    answers zone now "Compare" left right = [.ok (.int32 (Library.signOf (left.order right)))] :=
  Library.bodies_momentEntry zone now (by decide +kernel) _

theorem answers_subtraction :
    answers zone now "op_Subtraction" left right =
      [.error (.argumentType 1 "TimeSpan" "Object"),
        .ok (.object (.made [] 0) .timeSpan (.span (left.difference right)))] :=
  Library.bodies_momentEntry zone now (by decide +kernel) _

/-- The two compare by their ticks first and then by what the ticks leave out, but are as far apart
as their ticks are. -/
structure ComparesInOrder : Prop where
  order_eq : left.order right =
    (compare left.ticks right.ticks).then (compare left.pastTick right.pastTick)
  equality : answers zone now "op_Equality" left right =
    [.ok (.boolean (left.ticks = right.ticks ∧ left.pastTick = right.pastTick))]
  lessThan : answers zone now "op_LessThan" left right =
    [.ok (.boolean (left.ticks < right.ticks ∨
      left.ticks = right.ticks ∧ left.pastTick < right.pastTick))]
  compare : answers zone now "Compare" left right =
    [.ok (.int32 (if left.ticks = right.ticks then (left.pastTick - right.pastTick : Int).sign
      else (left.ticks - right.ticks).sign))]
  subtraction : answers zone now "op_Subtraction" left right =
    [.error (.argumentType 1 "TimeSpan" "Object"),
      .ok (.object (.made [] 0) .timeSpan (.span (left.difference right)))]
  difference : left.difference right = .zero ↔ left.ticks = right.ticks

structure ComparesByTicks : Prop where
  equality : answers zone now "op_Equality" left right = [.ok (.boolean (left.ticks = right.ticks))]
  lessThan : answers zone now "op_LessThan" left right = [.ok (.boolean (left.ticks < right.ticks))]
  compare : answers zone now "Compare" left right = [.ok (.int32 (left.ticks - right.ticks).sign)]
  difference : answers zone now "op_Equality" left right =
    [.ok (.boolean (left.difference right = .zero))]

variable {zone now left right}

theorem signOf_compare (first second : Int) :
    Library.signOf (compare first second) = (first - second).sign := by
  rcases Int.lt_trichotomy first second with before | rfl | after
  · rw [Int.compare_eq_lt.mpr before, Int.sign_eq_neg_one_of_neg (by omega)]
    rfl
  · rw [Int.compare_eq_eq.mpr rfl, Int.sub_self]
    rfl
  · rw [Int.compare_eq_gt.mpr after, Int.sign_eq_one_of_pos (by omega)]
    rfl

theorem signOf_compare_nat (first second : Nat) :
    Library.signOf (compare first second) = (first - second : Int).sign := by
  rw [← signOf_compare]
  simp only [compare, compareOfLessAndEq, Int.ofNat_lt, Int.natCast_inj]

theorem Timely.difference_eq_zero_iff (timely : left.Timely) (timelyOther : right.Timely) :
    left.difference right = .zero ↔ left.ticks = right.ticks := by
  rw [← TimeSpan.ticks_inj, timely.ticks_difference timelyOther]
  change left.ticks - right.ticks = 0 ↔ _
  omega

theorem Timely.comparesInOrder (timely : left.Timely) (timelyOther : right.Timely) :
    ComparesInOrder zone now left right := by
  have inOrder := order_eq timely.second_lt timelyOther.second_lt
  have isEqual : left.order right = .eq ↔
      left.ticks = right.ticks ∧ left.pastTick = right.pastTick := by
    rw [inOrder, Ordering.then_eq_eq, Int.compare_eq_eq, Nat.compare_eq_eq]
  have isLess : left.order right = .lt ↔
      left.ticks < right.ticks ∨ left.ticks = right.ticks ∧ left.pastTick < right.pastTick := by
    rw [inOrder, Ordering.then_eq_lt, Int.compare_eq_lt, Int.compare_eq_eq, Nat.compare_eq_lt]
  refine ⟨inOrder, ?_, ?_, ?_, answers_subtraction zone now left right,
    timely.difference_eq_zero_iff timelyOther⟩
  · rw [answers_equality, beq_eq_decide, decide_eq_decide.mpr isEqual]
  · rw [answers_lessThan, beq_eq_decide, decide_eq_decide.mpr isLess]
  · rw [answers_compare, inOrder]
    by_cases same : left.ticks = right.ticks
    · rw [if_pos same, Int.compare_eq_eq.mpr same, ← signOf_compare_nat]
      rfl
    · rw [if_neg same, ← signOf_compare]
      rcases Int.lt_or_gt_of_ne same with before | after
      · rw [Int.compare_eq_lt.mpr before]
        rfl
      · rw [Int.compare_eq_gt.mpr after]
        rfl

theorem ComparesInOrder.byTicks_iff (inOrder : ComparesInOrder zone now left right) :
    ComparesByTicks zone now left right ↔
      (left.ticks = right.ticks → left.pastTick = right.pastTick) := by
  constructor
  · intro byTicks same
    have equality := inOrder.equality.symm.trans byTicks.equality
    rw [List.cons.injEq, Except.ok.injEq, Value.boolean.injEq, decide_eq_decide] at equality
    exact (equality.1.mpr same).2
  · intro together
    have equal : left.ticks = right.ticks ∧ left.pastTick = right.pastTick ↔
        left.ticks = right.ticks :=
      and_iff_left_of_imp together
    refine ⟨?_, ?_, ?_, ?_⟩
    · rw [inOrder.equality, decide_eq_decide.mpr equal]
    · have less : left.ticks < right.ticks ∨
          left.ticks = right.ticks ∧ left.pastTick < right.pastTick ↔
            left.ticks < right.ticks := by
        omega
      rw [inOrder.lessThan, decide_eq_decide.mpr less]
    · rw [inOrder.compare]
      split
      · next same => rw [together same, same, Int.sub_self, Int.sub_self]
      · rfl
    · rw [inOrder.equality, decide_eq_decide.mpr (equal.trans inOrder.difference.symm)]

/-- Whatever the texts and the zone, instants that they lead to compare by ticks and then by what
the ticks leave out, which is less than a tick but in a leap second. So to compare them is to
compare ticks exactly if no two of one tick differ within it, and that is so where the texts
themselves name whole numbers of ticks. -/
theorem comparison_of_obtainable (obtainable : Obtainable zone texts left)
    (obtainableOther : Obtainable zone texts right) :
    left.Settled zone ∧ (left.pastTick < 100 ∨ 1000000000 ≤ left.nanosecond) ∧
      (zone.KeepsMinutes → left.pastTick < 100 ∨ left.secondOfMinute = 59) ∧
      ComparesInOrder zone now left right ∧
      (ComparesByTicks zone now left right ↔
        (left.ticks = right.ticks → left.pastTick = right.pastTick)) ∧
      ((∀ text, texts text → ReadsWholeTicks zone text) →
        ComparesByTicks zone now left right) := by
  have settled := obtainable.settled
  have inOrder : ComparesInOrder zone now left right :=
    settled.timely.comparesInOrder obtainableOther.settled.timely
  refine ⟨settled, left.pastTick_lt_or, fun keeps => ?_, inOrder, inOrder.byTicks_iff,
    fun whole => ?_⟩
  · exact left.pastTick_lt_or.imp_right (settled.onClock keeps).minuteEnd
  · refine inOrder.byTicks_iff.mpr fun _ => ?_
    rw [obtainable.pastTick_eq_zero whole, obtainableOther.pastTick_eq_zero whole]

/-- The start of a year, and a tenth of a tick after it: not equal, and no time apart. -/
theorem comparison_of_obtainable_withinTick :
    ∃ left right, ofText .universal "2020-01-01T00:00:00.00000001" = .ok left ∧
      ofText .universal "2020-01-01T00:00:00" = .ok right ∧
      (left.pastTick < 100 ∨ left.secondOfMinute = 59) ∧
      answers .universal calendarStart "op_Equality" left right = [.ok (.boolean false)] ∧
      left.difference right = .zero ∧
      ¬ComparesByTicks .universal calendarStart left right := by
  let whole : DateTime := { day := 737424, second := 0, nanosecond := 0, kind := .unspecified }
  let within : DateTime := { whole with nanosecond := 10 }
  have read : ofText .universal "2020-01-01T00:00:00" = .ok whole := by decide +kernel
  have readWithin : ofText .universal "2020-01-01T00:00:00.00000001" = .ok within := by
    decide +kernel
  have obtainable : Obtainable .universal (fun _ => True) whole := .ofText trivial read
  have obtainableWithin : Obtainable .universal (fun _ => True) within :=
    .ofText trivial readWithin
  have compared := @comparison_of_obtainable _ _ calendarStart _ _ obtainableWithin obtainable
  obtain ⟨_, _, minuteEnd, inOrder, byTicks, _⟩ := compared
  have same : within.ticks = whole.ticks := by decide
  have apart : ¬within.pastTick = whole.pastTick := by decide
  refine ⟨within, whole, readWithin, read, minuteEnd TimeZone.keepsMinutes_universal, ?_,
    inOrder.difference.mpr same, ?_⟩
  · rw [inOrder.equality, decide_eq_false (not_and_of_not_right _ apart)]
  · rw [byTicks]
    exact fun together => apart (together same)

end DateTime

end Formula
