import Formula.Library.Spans
import Formula.Proofs.Time.Spans
import Mathlib.Tactic.Ring

/-!
The components of a span are those of its magnitude, with the sign of the span. They add up to the
span together with what is below a millisecond, 32 bits hold each of them, and they are what the
text of the span shows.
-/

namespace Formula

namespace TimeSpan

def namedComponents (span : TimeSpan) : List (String × Int) :=
  [ ("Days", span.days), ("Hours", span.hours), ("Minutes", span.minutes),
    ("Seconds", span.seconds), ("Milliseconds", span.milliseconds) ]

def readMember? (name : String) (span : TimeSpan) : Option (Outcome Value) :=
  (Library.spanEntry.members.find? fun member => member.name == name).map fun member =>
    member.body
      { site := [], receiver := some (.object (.given 0) .timeSpan (.span span)), arguments := [] }

/-- A number that is not on the other side of zero. -/
def Sides (ticks component : Int) : Prop :=
  (0 ≤ ticks → 0 ≤ component) ∧ (ticks ≤ 0 → component ≤ 0)

/-- The whole, and what each unit has of it. The members give all of that, although they narrow it
to 32 bits. -/
structure Decomposes (span : TimeSpan) : Prop where
  sum : span.ticks =
    span.days * ticksPerDay + span.hours * ticksPerHour + span.minutes * ticksPerMinute +
      span.seconds * ticksPerSecond + span.milliseconds * ticksPerMillisecond +
      span.ticks.tmod ticksPerMillisecond
  hours_lt : span.hours.natAbs < 24
  minutes_lt : span.minutes.natAbs < 60
  seconds_lt : span.seconds.natAbs < 60
  milliseconds_lt : span.milliseconds.natAbs < 1000
  sides : ∀ component ∈ span.ticks.tmod ticksPerMillisecond :: span.namedComponents.map Prod.snd,
    Sides span.ticks component
  members : ∀ named ∈ span.namedComponents, ∃ integer : Integer,
    span.readMember? named.1 = some (.ok (.integer integer)) ∧ integer.kind = .int32 ∧
      integer.value = named.2

/-- Digits of a fixed width that stand for the number. -/
structure Field (width number : Nat) (chars : List Char) : Prop where
  length : chars.length = width
  digits : ∀ char ∈ chars, char.isDigit = true
  value : Numeral.ofDigits chars = number

/-- The text has a minus for what is negative, the days if there are any, the next three components
in two digits each, and what is below a second in seven digits if there is any of it. -/
def Displays (span : TimeSpan) : Prop :=
  ∃ hours minutes seconds fraction,
    Field 2 span.hours.natAbs hours ∧ Field 2 span.minutes.natAbs minutes ∧
      Field 2 span.seconds.natAbs seconds ∧
      Field 7 (span.ticks.tmod ticksPerSecond).natAbs fraction ∧
      span.toText.toList =
        (if span.ticks < 0 then ['-'] else []) ++
          (if span.days = 0 then [] else Nat.toDigits 10 span.days.natAbs ++ ['.']) ++
          hours ++ ':' :: minutes ++ ':' :: seconds ++
          (if span.ticks.tmod ticksPerSecond = 0 then [] else '.' :: fraction)

variable (span : TimeSpan)

@[simp] theorem ticksPerMillisecond_eq : ticksPerMillisecond = 10000 := rfl

theorem natAbs_tdiv_tmod (ticks : Int) (perUnit modulus : Nat) :
    ((ticks.tdiv perUnit).tmod modulus).natAbs = ticks.natAbs / perUnit % modulus := by
  rw [Int.natAbs_tmod]
  exact congrArg (· % modulus) (Int.natAbs_tdiv ticks perUnit)

theorem natAbs_days : span.days.natAbs = span.ticks.natAbs / 864000000000 :=
  Int.natAbs_tdiv span.ticks 864000000000

theorem natAbs_hours : span.hours.natAbs = span.ticks.natAbs / 36000000000 % 24 :=
  natAbs_tdiv_tmod span.ticks 36000000000 24

theorem natAbs_minutes : span.minutes.natAbs = span.ticks.natAbs / 600000000 % 60 :=
  natAbs_tdiv_tmod span.ticks 600000000 60

theorem natAbs_seconds : span.seconds.natAbs = span.ticks.natAbs / 10000000 % 60 :=
  natAbs_tdiv_tmod span.ticks 10000000 60

theorem natAbs_milliseconds : span.milliseconds.natAbs = span.ticks.natAbs / 10000 % 1000 :=
  natAbs_tdiv_tmod span.ticks 10000 1000

theorem natAbs_belowMillisecond :
    (span.ticks.tmod ticksPerMillisecond).natAbs = span.ticks.natAbs % 10000 :=
  Int.natAbs_tmod span.ticks 10000

theorem natAbs_belowSecond :
    (span.ticks.tmod ticksPerSecond).natAbs = span.ticks.natAbs % 10000000 :=
  Int.natAbs_tmod span.ticks 10000000

theorem sum_magnitudes (magnitude : Nat) :
    magnitude =
      magnitude / 864000000000 * 864000000000 + magnitude / 36000000000 % 24 * 36000000000 +
        magnitude / 600000000 % 60 * 600000000 + magnitude / 10000000 % 60 * 10000000 +
        magnitude / 10000 % 1000 * 10000 + magnitude % 10000 := by
  omega

theorem Sides.trans {ticks quotient component : Int} (first : Sides ticks quotient)
    (second : Sides quotient component) : Sides ticks component :=
  ⟨fun nonneg => second.1 (first.1 nonneg), fun nonpos => second.2 (first.2 nonpos)⟩

theorem Sides.eq_sign_mul {ticks component : Int} (sides : Sides ticks component) :
    component = ticks.sign * component.natAbs := by
  unfold Sides at sides
  rcases Int.lt_trichotomy ticks 0 with negative | rfl | positive
  · rw [Int.sign_eq_neg_one_of_neg negative]
    omega
  · rw [Int.sign_zero]
    omega
  · rw [Int.sign_eq_one_of_pos positive]
    omega

theorem sides_tmod (ticks modulus : Int) : Sides ticks (ticks.tmod modulus) := by
  refine ⟨Int.tmod_nonneg modulus, fun nonpos => ?_⟩
  have opposite := Int.tmod_nonneg modulus (Int.neg_nonneg_of_nonpos nonpos)
  rw [Int.neg_tmod] at opposite
  exact Int.nonpos_of_neg_nonneg opposite

theorem sides_tdiv (ticks : Int) {perUnit : Int} (positive : 0 ≤ perUnit) :
    Sides ticks (ticks.tdiv perUnit) := by
  refine ⟨fun nonneg => Int.tdiv_nonneg nonneg positive, fun nonpos => ?_⟩
  have opposite := Int.tdiv_nonneg (Int.neg_nonneg_of_nonpos nonpos) positive
  rw [Int.neg_tdiv] at opposite
  exact Int.nonpos_of_neg_nonneg opposite

theorem sides_components :
    ∀ component ∈ span.ticks.tmod ticksPerMillisecond :: span.namedComponents.map Prod.snd,
      Sides span.ticks component := by
  have part : ∀ {perUnit : Int} (modulus : Int), 0 ≤ perUnit →
      Sides span.ticks ((span.ticks.tdiv perUnit).tmod modulus) := fun modulus positive =>
    (sides_tdiv span.ticks positive).trans (sides_tmod _ modulus)
  simp only [namedComponents, List.map_cons, List.map_nil, List.forall_mem_cons]
  exact ⟨sides_tmod _ _, sides_tdiv _ (by decide), part 24 (by decide), part 60 (by decide),
    part 60 (by decide), part 1000 (by decide), fun _ => nofun⟩

theorem sum_components :
    span.ticks =
      span.days * ticksPerDay + span.hours * ticksPerHour + span.minutes * ticksPerMinute +
        span.seconds * ticksPerSecond + span.milliseconds * ticksPerMillisecond +
        span.ticks.tmod ticksPerMillisecond := by
  have sum := sum_magnitudes span.ticks.natAbs
  rw [← natAbs_days, ← natAbs_hours, ← natAbs_minutes, ← natAbs_seconds, ← natAbs_milliseconds,
    ← natAbs_belowMillisecond] at sum
  have signed : ∀ component ∈
      span.ticks.tmod ticksPerMillisecond :: span.namedComponents.map Prod.snd,
      component = span.ticks.sign * component.natAbs :=
    fun component member => (sides_components span component member).eq_sign_mul
  simp only [namedComponents, List.map_cons, List.map_nil, List.forall_mem_cons] at signed
  obtain ⟨below, days, hours, minutes, seconds, milliseconds, _⟩ := signed
  rw [days, hours, minutes, seconds, milliseconds, below, ticksPerDay_eq, ticksPerHour_eq,
    ticksPerMinute_eq, ticksPerSecond_eq]
  conv_lhs => rw [← Int.sign_mul_natAbs span.ticks, sum]
  push_cast
  rw [ticksPerMillisecond_eq]
  ring

theorem wrap_value_of_natAbs_lt {component : Int} (few : component.natAbs < 2147483648) :
    (Integer.wrap .int32 component).value = component := by
  have holds : IntegerKind.int32.Holds component := by
    change -2147483648 ≤ component ∧ component ≤ 2147483647
    omega
  exact IntegerKind.wrap_of_holds holds

theorem field_padded {width number : Nat} (some : 0 < width) (fits : number < 10 ^ width) :
    Field width number (padded width number) where
  length := length_padded some fits
  digits _ := isDigit_of_mem_padded
  value := ofDigits_padded width number

theorem displays : span.Displays := by
  refine ⟨_, _, _, _, field_padded (by decide) ?_, field_padded (by decide) ?_,
    field_padded (by decide) ?_, field_padded (by decide) ?_, ?_⟩
  · rw [natAbs_hours]
    omega
  · rw [natAbs_minutes]
    omega
  · rw [natAbs_seconds]
    omega
  · rw [natAbs_belowSecond]
    omega
  · have noDays : span.days = 0 ↔ span.ticks.natAbs / 864000000000 = 0 := by
      rw [← natAbs_days, Int.natAbs_eq_zero]
    have noFraction :
        span.ticks.tmod ticksPerSecond = 0 ↔ span.ticks.natAbs % 10000000 = 0 := by
      rw [← natAbs_belowSecond, Int.natAbs_eq_zero]
    rw [toText, String.toList_ofList, toChars_eq, unsignedChars, headChars_eq, minuteChars,
      secondChars_eq, natAbs_days, natAbs_hours, natAbs_minutes, natAbs_seconds,
      natAbs_belowSecond]
    simp only [noDays, noFraction, List.append_assoc, List.cons_append]

/-- Every span is the sum of its components, and its text shows them. -/
theorem decomposes_displays : span.Decomposes ∧ span.Displays := by
  have counted := (holds_iff span.ticks).mp span.holds
  refine ⟨⟨sum_components span, ?_, ?_, ?_, ?_, sides_components span, ?_⟩, displays span⟩
  · rw [natAbs_hours]
    omega
  · rw [natAbs_minutes]
    omega
  · rw [natAbs_seconds]
    omega
  · rw [natAbs_milliseconds]
    omega
  · simp only [namedComponents, List.forall_mem_cons]
    refine ⟨⟨_, rfl, rfl, wrap_value_of_natAbs_lt ?_⟩, ⟨_, rfl, rfl, wrap_value_of_natAbs_lt ?_⟩,
      ⟨_, rfl, rfl, wrap_value_of_natAbs_lt ?_⟩, ⟨_, rfl, rfl, wrap_value_of_natAbs_lt ?_⟩,
      ⟨_, rfl, rfl, wrap_value_of_natAbs_lt ?_⟩, fun _ => nofun⟩
    · rw [natAbs_days]
      omega
    · rw [natAbs_hours]
      omega
    · rw [natAbs_minutes]
      omega
    · rw [natAbs_seconds]
      omega
    · rw [natAbs_milliseconds]
      omega

/-- The least span, of which the magnitude is one tick more than the greatest span. -/
example :
    least.namedComponents.map Prod.snd = [-10675199, -2, -48, -5, -477] ∧
      least.toText = "-10675199.02:48:05.4775808" := by
  decide +kernel

end TimeSpan

end Formula
