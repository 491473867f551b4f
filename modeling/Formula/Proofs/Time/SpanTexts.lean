import Formula.Proofs.Time.Spans

/-!
The texts that are read as spans: a day count, or a clock with the days before it and a fraction
behind it, after a minus or without one. The grammar is given over what counts as a number. The
reader takes a number with a sign in every field, where the constant format has digits only, and
so it reads texts that are not in that format; on those without further signs the two agree.
-/

namespace Formula.TimeSpan

open Numeral (IsDigits Plain Signed ofDigits)

namespace Grammar

structure Below (number : List Char → Int → Prop) (bound : Int) (chars : List Char)
    (value : Int) : Prop where
  isNumber : number chars value
  nonneg : 0 ≤ value
  lt : value < bound

/-- The hours, with the days in front of them or without. -/
inductive Head (number : List Char → Int → Prop) : List Char → Int → Int → Prop
  | hours {hour : List Char} {hours : Int} (isHour : Below number 24 hour hours) :
      Head number hour 0 hours
  | daysAndHours {day hour : List Char} {days hours : Int} (isDay : number day days)
      (nonneg : 0 ≤ days) (isHour : Below number 24 hour hours) :
      Head number (day ++ '.' :: hour) days hours

/-- The ticks of the seconds, with a fraction of at most seven digits or without; the digits that
it does not have are zeros. -/
inductive Seconds (number : List Char → Int → Prop) : List Char → Int → Prop
  | whole {second : List Char} {seconds : Int} (isSecond : Below number 60 second seconds) :
      Seconds number second (seconds * ticksPerSecond)
  | fractional {second fraction : List Char} {seconds : Int}
      (isSecond : Below number 60 second seconds) (areDigits : IsDigits fraction)
      (short : fraction.length ≤ 7) :
      Seconds number (second ++ '.' :: fraction)
        (seconds * ticksPerSecond +
          ofDigits (fraction ++ List.replicate (7 - fraction.length) '0'))

/-- A text without its sign in front, and the ticks it stands for. -/
inductive Amount (number : List Char → Int → Prop) : List Char → Int → Prop
  | dayCount {day : List Char} {days : Int} (isDay : number day days) :
      Amount number day (days * ticksPerDay)
  | clock {head minute : List Char} {days hours minutes : Int}
      (isHead : Head number head days hours) (isMinute : Below number 60 minute minutes) :
      Amount number (head ++ ':' :: minute)
        (days * ticksPerDay + hours * ticksPerHour + minutes * ticksPerMinute)
  | clockWithSeconds {head minute second : List Char} {days hours minutes seconds : Int}
      (isHead : Head number head days hours) (isMinute : Below number 60 minute minutes)
      (isSecond : Seconds number second seconds) :
      Amount number (head ++ ':' :: (minute ++ ':' :: second))
        (days * ticksPerDay + hours * ticksPerHour + minutes * ticksPerMinute + seconds)

/-- A text and the ticks it stands for. The sign in front belongs to the whole. -/
inductive Whole (number : List Char → Int → Prop) : List Char → Int → Prop
  | unsigned {chars : List Char} {ticks : Int} (noMinus : chars.head? ≠ some '-')
      (isAmount : Amount number chars ticks) : Whole number chars ticks
  | minus {chars : List Char} {ticks : Int} (isAmount : Amount number chars ticks) :
      Whole number ('-' :: chars) (-ticks)

/-- There is a sign besides a minus in front. -/
def HasFurtherSign (chars : List Char) : Prop :=
  '+' ∈ chars ∨ '-' ∈ chars.tail

variable {number other : List Char → Int → Prop} {chars : List Char} {bound ticks : Int}
  {days hours value : Int}

theorem Below.mono (below : Below number bound chars value)
    (fields : ∀ {field value}, field ⊆ chars → number field value → other field value) :
    Below other bound chars value :=
  ⟨fields (List.Subset.refl chars) below.isNumber, below.nonneg, below.lt⟩

theorem subset_before {field left : List Char} {separator : Char} (right : List Char)
    (within : field ⊆ left) : field ⊆ left ++ separator :: right :=
  List.subset_append_of_subset_left _ within

theorem subset_behind {field right : List Char} {separator : Char} (left : List Char)
    (within : field ⊆ right) : field ⊆ left ++ separator :: right :=
  List.subset_append_of_subset_right left (List.subset_cons_of_subset separator within)

theorem Head.mono (isHead : Head number chars days hours)
    (fields : ∀ {field value}, field ⊆ chars → number field value → other field value) :
    Head other chars days hours := by
  cases isHead with
  | hours isHour => exact .hours (isHour.mono fields)
  | daysAndHours isDay nonneg isHour =>
      exact .daysAndHours (fields (subset_before _ (List.Subset.refl _)) isDay) nonneg
        (isHour.mono fun within => fields (subset_behind _ within))

theorem Seconds.mono (isSecond : Seconds number chars ticks)
    (fields : ∀ {field value}, field ⊆ chars → number field value → other field value) :
    Seconds other chars ticks := by
  cases isSecond with
  | whole isWhole => exact .whole (isWhole.mono fields)
  | fractional isWhole areDigits short =>
      exact .fractional (isWhole.mono fun within => fields (subset_before _ within)) areDigits
        short

theorem Amount.mono (isAmount : Amount number chars ticks)
    (fields : ∀ {field value}, field ⊆ chars → number field value → other field value) :
    Amount other chars ticks := by
  cases isAmount with
  | dayCount isDay => exact .dayCount (fields (List.Subset.refl chars) isDay)
  | clock isHead isMinute =>
      exact .clock (isHead.mono fun within => fields (subset_before _ within))
        (isMinute.mono fun within => fields (subset_behind _ within))
  | clockWithSeconds isHead isMinute isSecond =>
      exact .clockWithSeconds (isHead.mono fun within => fields (subset_before _ within))
        (isMinute.mono fun within => fields (subset_behind _ (subset_before _ within)))
        (isSecond.mono fun within => fields (subset_behind _ (subset_behind _ within)))

section Characters

variable {Allowed : Char → Prop} (point : Allowed '.')
  (fields : ∀ {field value}, number field value → ∀ char ∈ field, Allowed char)

include point fields

theorem Head.allowed (isHead : Head number chars days hours) : ∀ char ∈ chars, Allowed char := by
  cases isHead with
  | hours isHour => exact fields isHour.isNumber
  | daysAndHours isDay _ isHour =>
      rw [List.forall_mem_append, List.forall_mem_cons]
      exact ⟨fields isDay, point, fields isHour.isNumber⟩

variable (digit : ∀ char, char.isDigit = true → Allowed char)

include digit

theorem Seconds.allowed (isSecond : Seconds number chars ticks) :
    ∀ char ∈ chars, Allowed char := by
  cases isSecond with
  | whole isWhole => exact fields isWhole.isNumber
  | fractional isWhole areDigits =>
      rw [List.forall_mem_append, List.forall_mem_cons]
      refine ⟨fields isWhole.isNumber, point, fun char member => ?_⟩
      exact digit char (areDigits.2 char member)

theorem Amount.allowed (colon : Allowed ':') (isAmount : Amount number chars ticks) :
    ∀ char ∈ chars, Allowed char := by
  cases isAmount with
  | dayCount isDay => exact fields isDay
  | clock isHead isMinute =>
      rw [List.forall_mem_append, List.forall_mem_cons]
      exact ⟨isHead.allowed point fields, colon, fields isMinute.isNumber⟩
  | clockWithSeconds isHead isMinute isSecond =>
      rw [List.forall_mem_append, List.forall_mem_cons, List.forall_mem_append,
        List.forall_mem_cons]
      exact ⟨isHead.allowed point fields, colon, fields isMinute.isNumber, colon,
        isSecond.allowed point fields digit⟩

end Characters

theorem Head.bounds (isHead : Head number chars days hours) :
    0 ≤ days ∧ 0 ≤ hours ∧ hours < 24 := by
  cases isHead with
  | hours isHour => exact ⟨Int.le_refl 0, isHour.nonneg, isHour.lt⟩
  | daysAndHours _ nonneg isHour => exact ⟨nonneg, isHour.nonneg, isHour.lt⟩

theorem fraction_lt {fraction : List Char} (areDigits : IsDigits fraction)
    (short : fraction.length ≤ 7) :
    ofDigits (fraction ++ List.replicate (7 - fraction.length) '0') < 10000000 := by
  have digits : ∀ char ∈ fraction ++ List.replicate (7 - fraction.length) '0',
      char.isDigit = true := by
    rw [List.forall_mem_append]
    exact ⟨areDigits.2, fun char member => List.eq_of_mem_replicate member ▸ rfl⟩
  have length : (fraction ++ List.replicate (7 - fraction.length) '0').length = 7 := by
    rw [List.length_append, List.length_replicate]
    omega
  have bound := Numeral.ofDigits_lt digits
  rwa [length] at bound

theorem Seconds.bounds (isSecond : Seconds number chars ticks) :
    0 ≤ ticks ∧ ticks < ticksPerMinute := by
  rw [ticksPerMinute_eq]
  cases isSecond with
  | whole isWhole =>
      have nonneg := isWhole.nonneg
      have lt := isWhole.lt
      rw [ticksPerSecond_eq]
      omega
  | fractional isWhole areDigits short =>
      have nonneg := isWhole.nonneg
      have lt := isWhole.lt
      have below := fraction_lt areDigits short
      rw [ticksPerSecond_eq]
      omega

/-- No text of the grammar has the least number of ticks for its total: it is no number of days,
and a clock does not go below zero. -/
theorem Amount.ne_least (isAmount : Amount number chars ticks) : ticks ≠ -9223372036854775808 := by
  cases isAmount with
  | dayCount =>
      rw [ticksPerDay_eq]
      omega
  | clock isHead isMinute =>
      have head := isHead.bounds
      have minute := isMinute.nonneg
      rw [ticksPerDay_eq, ticksPerHour_eq, ticksPerMinute_eq]
      omega
  | clockWithSeconds isHead isMinute isSecond =>
      have head := isHead.bounds
      have minute := isMinute.nonneg
      have second := isSecond.bounds
      rw [ticksPerDay_eq, ticksPerHour_eq, ticksPerMinute_eq]
      omega

theorem amount_plain_iff :
    Amount Plain chars ticks ↔ Amount Signed chars ticks ∧ '+' ∉ chars ∧ '-' ∉ chars := by
  constructor
  · intro isAmount
    have unsigned : ∀ char ∈ chars, char ≠ '+' ∧ char ≠ '-' := by
      have digit : ∀ char : Char, char.isDigit = true → char ≠ '+' ∧ char ≠ '-' := by
        rintro char isDigit
        constructor <;> rintro rfl <;> cases isDigit
      refine isAmount.allowed (by decide) (fun isPlain char member => ?_) digit (by decide)
      exact digit char (isPlain.1.2 char member)
    exact ⟨isAmount.mono fun _ => .plain, fun member => (unsigned _ member).1 rfl,
      fun member => (unsigned _ member).2 rfl⟩
  · rintro ⟨isAmount, noPlus, noMinus⟩
    exact isAmount.mono fun within isSigned =>
      isSigned.isPlain (fun member => noPlus (within member)) fun member => noMinus (within member)

theorem whole_unsigned_iff (noMinus : chars.head? ≠ some '-') :
    Whole number chars ticks ↔ Amount number chars ticks := by
  constructor
  · rintro (⟨_, isAmount⟩ | _)
    · exact isAmount
    · exact absurd rfl noMinus
  · exact .unsigned noMinus

theorem whole_minus_iff : Whole number ('-' :: chars) ticks ↔ Amount number chars (-ticks) := by
  constructor
  · generalize signed : '-' :: chars = text
    rintro (⟨noMinus, _⟩ | isAmount)
    · exact absurd (signed ▸ rfl) noMinus
    · obtain rfl := List.tail_eq_of_cons_eq signed
      rwa [Int.neg_neg]
  · intro isAmount
    have isWhole := Whole.minus isAmount
    rwa [Int.neg_neg] at isWhole

/-- The texts of the constant format are those with no sign but the one in front. -/
theorem whole_plain_iff :
    Whole Plain chars ticks ↔ Whole Signed chars ticks ∧ ¬HasFurtherSign chars := by
  unfold HasFurtherSign
  rw [not_or]
  by_cases noMinus : chars.head? = some '-'
  · obtain ⟨rest, rfl⟩ := List.head?_eq_some_iff.mp noMinus
    have plus : '+' ∉ '-' :: rest ↔ '+' ∉ rest := by simp
    rw [whole_minus_iff, whole_minus_iff, amount_plain_iff, plus, List.tail_cons]
  · have minus : '-' ∉ chars ↔ '-' ∉ chars.tail := by
      cases chars with
      | nil => rfl
      | cons first rest =>
          have other : '-' ≠ first := fun same => noMinus (congrArg some same.symm)
          simp [other]
    rw [whole_unsigned_iff noMinus, whole_unsigned_iff noMinus, amount_plain_iff, minus]

end Grammar

namespace Reading

open Grammar

variable {chars head minute : List Char} {bound days hours ticks value : Int}

theorem field?_eq_some_iff :
    field? chars = some value ↔ Signed chars value ∧ IntegerKind.int64.Holds value := by
  have signed : IntegerKind.int64.isSigned = true := rfl
  rw [field?, Numeral.integerOf?, ← Numeral.integer?_eq_some_iff]
  simp only [signed, Bool.not_true, Bool.false_and, Bool.false_eq_true, if_false,
    Option.map_eq_some_iff, Option.bind_eq_some_iff]
  constructor
  · rintro ⟨integer, ⟨number, read, made⟩, rfl⟩
    simp only [Integer.ofInt?] at made
    split at made
    · next holds =>
        obtain rfl := Option.some.inj made
        exact ⟨read, holds⟩
    · cases made
  · rintro ⟨read, holds⟩
    exact ⟨⟨.int64, value, holds⟩, ⟨value, read, by rw [Integer.ofInt?, dif_pos holds]⟩, rfl⟩

theorem fieldBelow?_eq_some_iff (small : bound ≤ 60) :
    fieldBelow? bound chars = some value ↔ Below Signed bound chars value := by
  simp only [fieldBelow?, Option.filter_eq_some_iff, field?_eq_some_iff, Bool.and_eq_true,
    decide_eq_true_eq]
  constructor
  · rintro ⟨⟨isNumber, _⟩, nonneg, lt⟩
    exact ⟨isNumber, nonneg, lt⟩
  · rintro ⟨isNumber, nonneg, lt⟩
    exact ⟨⟨isNumber, (holds_iff value).mpr (by omega)⟩, nonneg, lt⟩

theorem fraction?_eq_some_iff :
    fraction? chars = some value ↔
      IsDigits chars ∧ chars.length ≤ 7 ∧
        value = ofDigits (chars ++ List.replicate (7 - chars.length) '0') := by
  rw [fraction?, Option.ite_none_right_eq_some, Numeral.ofDigits_zeros, Option.map_eq_some_iff]
  simp only [Numeral.natural?_eq_some_iff]
  constructor
  · rintro ⟨short, number, ⟨areDigits, rfl⟩, rfl⟩
    exact ⟨areDigits, short, rfl⟩
  · rintro ⟨areDigits, short, rfl⟩
    exact ⟨short, _, ⟨areDigits, rfl⟩, rfl⟩

theorem ends_not_mem (isSigned : Signed chars value) : '.' ∉ chars ∧ ':' ∉ chars := by
  constructor <;> intro member <;>
    rcases isSigned.of_mem member with digit | plus | minus <;> contradiction

theorem daysAndHours?_eq_some_iff :
    daysAndHours? chars = some (days, hours) ↔
      Head Signed chars days hours ∧ IntegerKind.int64.Holds days := by
  constructor
  · intro read
    rcases Text.cutAt?_cases '.' chars with ⟨_, cut⟩ | ⟨day, hour, _, rfl, cut⟩
    · simp only [daysAndHours?, cut, Option.map_eq_some_iff, Prod.mk.injEq] at read
      obtain ⟨_, isHour, rfl, rfl⟩ := read
      exact ⟨.hours ((fieldBelow?_eq_some_iff (by decide)).mp isHour), by decide⟩
    · simp only [daysAndHours?, cut, Option.bind_eq_bind, Option.bind_eq_some_iff,
        Option.filter_eq_some_iff, decide_eq_true_eq, Option.pure_def, Option.some.injEq,
        Prod.mk.injEq] at read
      obtain ⟨_, ⟨isDay, nonneg⟩, _, isHour, rfl, rfl⟩ := read
      obtain ⟨isDay, holds⟩ := field?_eq_some_iff.mp isDay
      exact ⟨.daysAndHours isDay nonneg ((fieldBelow?_eq_some_iff (by decide)).mp isHour), holds⟩
  · rintro ⟨isHour | ⟨isDay, nonneg, isHour⟩, holds⟩
    · have read := (fieldBelow?_eq_some_iff (by decide)).mpr isHour
      rw [daysAndHours?, Text.cutAt?_of_not_mem (ends_not_mem isHour.isNumber).1]
      simp only [read, Option.map_some]
    · have dayRead := field?_eq_some_iff.mpr ⟨isDay, holds⟩
      have hourRead := (fieldBelow?_eq_some_iff (by decide)).mpr isHour
      rw [daysAndHours?, Text.cutAt?_append (ends_not_mem isDay).1]
      simp only [dayRead, hourRead, Option.filter_some, nonneg, decide_true, if_true]
      rfl

theorem secondTicks?_eq_some_iff :
    secondTicks? chars = some ticks ↔ Seconds Signed chars ticks := by
  constructor
  · intro read
    rcases Text.cutAt?_cases '.' chars with ⟨_, cut⟩ | ⟨second, fraction, _, rfl, cut⟩
    · simp only [secondTicks?, cut, Option.map_eq_some_iff] at read
      obtain ⟨_, isSecond, rfl⟩ := read
      exact .whole ((fieldBelow?_eq_some_iff (by decide)).mp isSecond)
    · simp only [secondTicks?, cut, Option.bind_eq_bind, Option.bind_eq_some_iff,
        Option.pure_def, Option.some.injEq] at read
      obtain ⟨_, isSecond, _, isFraction, rfl⟩ := read
      obtain ⟨areDigits, short, rfl⟩ := fraction?_eq_some_iff.mp isFraction
      exact .fractional ((fieldBelow?_eq_some_iff (by decide)).mp isSecond) areDigits short
  · rintro (isSecond | ⟨isSecond, areDigits, short⟩)
    · have read := (fieldBelow?_eq_some_iff (by decide)).mpr isSecond
      rw [secondTicks?, Text.cutAt?_of_not_mem (ends_not_mem isSecond.isNumber).1]
      simp only [read, Option.map_some]
    · have secondRead := (fieldBelow?_eq_some_iff (by decide)).mpr isSecond
      have fractionRead := fraction?_eq_some_iff.mpr ⟨areDigits, short, rfl⟩
      rw [secondTicks?, Text.cutAt?_append (ends_not_mem isSecond.isNumber).1]
      simp only [secondRead, fractionRead]
      rfl

theorem clockTicks?_eq_some_iff {seconds : Option (List Char)} :
    clockTicks? head minute seconds = some ticks ↔
      ∃ days hours minutes rest, daysAndHours? head = some (days, hours) ∧
        fieldBelow? 60 minute = some minutes ∧
        (seconds.map secondTicks?).getD (some 0) = some rest ∧
        days * ticksPerDay + hours * ticksPerHour + minutes * ticksPerMinute + rest = ticks := by
  simp only [clockTicks?, Option.bind_eq_bind, Option.bind_eq_some_iff, Option.pure_def,
    Option.some.injEq, Prod.exists, exists_and_left]

theorem amount_of_ticks? (read : ticks? chars = some ticks) : Amount Signed chars ticks := by
  have minuteRead : ∀ {field : List Char} {value : Int},
      fieldBelow? 60 field = some value → Below Signed 60 field value :=
    (fieldBelow?_eq_some_iff (by decide)).mp
  rcases Text.splitOn_cases ':' chars with ⟨_, split⟩ | ⟨head, rest, _, rfl, split⟩
  · simp only [ticks?, split, Option.map_eq_some_iff] at read
    obtain ⟨_, isDay, rfl⟩ := read
    exact .dayCount (field?_eq_some_iff.mp isDay).1
  · rcases Text.splitOn_cases ':' rest with ⟨_, again⟩ | ⟨minute, behind, _, rfl, again⟩
    · simp only [ticks?, split, again, clockTicks?_eq_some_iff] at read
      obtain ⟨days, hours, minutes, _, isHead, isMinute, isZero, rfl⟩ := read
      obtain rfl := Option.some.inj isZero
      rw [Int.add_zero]
      exact .clock (daysAndHours?_eq_some_iff.mp isHead).1 (minuteRead isMinute)
    · rcases Text.splitOn_cases ':' behind with ⟨_, last⟩ | ⟨second, further, _, rfl, last⟩
      · simp only [ticks?, split, again, last, clockTicks?_eq_some_iff] at read
        obtain ⟨days, hours, minutes, _, isHead, isMinute, isSecond, rfl⟩ := read
        exact .clockWithSeconds (daysAndHours?_eq_some_iff.mp isHead).1 (minuteRead isMinute)
          (secondTicks?_eq_some_iff.mp isSecond)
      · -- A fourth field is refused, whatever comes behind it.
        have nonempty : Text.splitOn [':'] further ≠ [] := by
          simp [Text.splitOn]
        simp only [ticks?, split, again, last] at read
        cases parts : Text.splitOn [':'] further with
        | nil => exact absurd parts nonempty
        | cons =>
          rw [parts] at read
          cases read

/-- What the parts of a clock add up to is within 64 bits only if each sum on the way is. -/
theorem holds_partialSums {minutes rest : Int} (isHead : Head Signed head days hours)
    (isMinute : Below Signed 60 minute minutes) (more : 0 ≤ rest)
    (holds : IntegerKind.int64.Holds
      (days * ticksPerDay + hours * ticksPerHour + minutes * ticksPerMinute + rest)) :
    IntegerKind.int64.Holds days ∧ IntegerKind.int64.Holds (days * ticksPerDay) ∧
      IntegerKind.int64.Holds
        (days * ticksPerDay + (hours * ticksPerHour + minutes * ticksPerMinute)) := by
  have bounds := isHead.bounds
  have nonneg := isMinute.nonneg
  simp only [holds_iff, ticksPerDay_eq, ticksPerHour_eq, ticksPerMinute_eq] at holds ⊢
  omega

theorem isSigned_ne_colon {field : List Char} (isSigned : Signed field value) :
    ∀ char ∈ field, char ≠ ':' := by
  rintro _ member rfl
  exact (ends_not_mem isSigned).2 member

theorem colon_not_mem_head (isHead : Head Signed chars days hours) : ':' ∉ chars := by
  have others : ∀ char ∈ chars, char ≠ ':' := isHead.allowed (by decide) isSigned_ne_colon
  exact fun member => others _ member rfl

theorem colon_not_mem_second (isSecond : Seconds Signed chars ticks) : ':' ∉ chars := by
  have digit : ∀ char : Char, char.isDigit = true → char ≠ ':' := by
    rintro _ isDigit rfl
    cases isDigit
  have others : ∀ char ∈ chars, char ≠ ':' :=
    isSecond.allowed (by decide) isSigned_ne_colon digit
  exact fun member => others _ member rfl

theorem ticks?_of_amount (isAmount : Amount Signed chars ticks)
    (holds : IntegerKind.int64.Holds ticks) : ticks? chars = some ticks := by
  cases isAmount with
  | @dayCount _ days isDay =>
      have counted : IntegerKind.int64.Holds days := by
        simp only [holds_iff, ticksPerDay_eq] at holds ⊢
        omega
      have dayRead := field?_eq_some_iff.mpr ⟨isDay, counted⟩
      rw [ticks?, Text.splitOn_of_not_mem (ends_not_mem isDay).2]
      simp only [dayRead, Option.map_some]
  | clock isHead isMinute =>
      rw [← Int.add_zero (_ + _)] at holds ⊢
      have counted := (holds_partialSums isHead isMinute (Int.le_refl 0) holds).1
      have headRead := daysAndHours?_eq_some_iff.mpr ⟨isHead, counted⟩
      have minuteRead := (fieldBelow?_eq_some_iff (by decide)).mpr isMinute
      rw [ticks?, Text.splitOn_append (colon_not_mem_head isHead),
        Text.splitOn_of_not_mem (ends_not_mem isMinute.isNumber).2]
      exact clockTicks?_eq_some_iff.mpr ⟨_, _, _, _, headRead, minuteRead, rfl, rfl⟩
  | clockWithSeconds isHead isMinute isSecond =>
      have counted := (holds_partialSums isHead isMinute isSecond.bounds.1 holds).1
      have headRead := daysAndHours?_eq_some_iff.mpr ⟨isHead, counted⟩
      have minuteRead := (fieldBelow?_eq_some_iff (by decide)).mpr isMinute
      have secondRead := secondTicks?_eq_some_iff.mpr isSecond
      rw [ticks?, Text.splitOn_append (colon_not_mem_head isHead),
        Text.splitOn_append (ends_not_mem isMinute.isNumber).2,
        Text.splitOn_of_not_mem (colon_not_mem_second isSecond)]
      exact clockTicks?_eq_some_iff.mpr ⟨_, _, _, _, headRead, minuteRead, secondRead, rfl⟩

/-- What is computed without a check on the way from the fields to a span is within 64 bits; what
is computed with one is within them if the total is. -/
structure Contained : Prop where
  clock {head minute : List Char} {days hours minutes : Int}
    (headRead : daysAndHours? head = some (days, hours))
    (minuteRead : fieldBelow? 60 minute = some minutes) :
    IntegerKind.int64.Holds (hours * ticksPerHour) ∧
      IntegerKind.int64.Holds (minutes * ticksPerMinute) ∧
      IntegerKind.int64.Holds (hours * ticksPerHour + minutes * ticksPerMinute)
  seconds {second : List Char} {seconds : Int} (secondRead : fieldBelow? 60 second = some seconds) :
    IntegerKind.int64.Holds (seconds * ticksPerSecond)
  fraction {digits : List Char} {ticks : Int} (fractionRead : fraction? digits = some ticks) :
    IntegerKind.int64.Holds ticks
  secondTicks {second : List Char} {ticks : Int} (secondRead : secondTicks? second = some ticks) :
    IntegerKind.int64.Holds ticks
  sums {head minute : List Char} {seconds : Option (List Char)} {days hours minutes ticks : Int}
    (headRead : daysAndHours? head = some (days, hours))
    (minuteRead : fieldBelow? 60 minute = some minutes)
    (secondRead : (seconds.map secondTicks?).getD (some 0) = some ticks)
    (total : IntegerKind.int64.Holds
      (days * ticksPerDay + hours * ticksPerHour + minutes * ticksPerMinute + ticks)) :
    IntegerKind.int64.Holds (days * ticksPerDay) ∧
      IntegerKind.int64.Holds
        (days * ticksPerDay + (hours * ticksPerHour + minutes * ticksPerMinute))
  opposite {chars : List Char} {ticks : Int} (read : ticks? chars = some ticks)
    (total : IntegerKind.int64.Holds ticks) : IntegerKind.int64.Holds (-ticks)

theorem holds_opposite (isAmount : Amount Signed chars ticks)
    (total : IntegerKind.int64.Holds ticks) : IntegerKind.int64.Holds (-ticks) := by
  have notLeast := isAmount.ne_least
  rw [holds_iff] at total ⊢
  omega

theorem contained : Contained where
  clock headRead minuteRead := by
    have head := (daysAndHours?_eq_some_iff.mp headRead).1.bounds
    have minute := (fieldBelow?_eq_some_iff (by decide)).mp minuteRead
    have nonneg := minute.nonneg
    have lt := minute.lt
    simp only [holds_iff, ticksPerHour_eq, ticksPerMinute_eq]
    omega
  seconds secondRead := by
    have second := (fieldBelow?_eq_some_iff (by decide)).mp secondRead
    have nonneg := second.nonneg
    have lt := second.lt
    simp only [holds_iff, ticksPerSecond_eq]
    omega
  fraction fractionRead := by
    obtain ⟨areDigits, short, rfl⟩ := fraction?_eq_some_iff.mp fractionRead
    have below := fraction_lt areDigits short
    rw [holds_iff]
    omega
  secondTicks secondRead := by
    have bounds := (secondTicks?_eq_some_iff.mp secondRead).bounds
    rw [ticksPerMinute_eq] at bounds
    rw [holds_iff]
    omega
  sums {_ _ seconds} _ _ _ _ headRead minuteRead secondRead total := by
    have head := (daysAndHours?_eq_some_iff.mp headRead).1
    have minute := (fieldBelow?_eq_some_iff (by decide)).mp minuteRead
    refine (holds_partialSums head minute ?_ total).2
    cases seconds with
    | none => exact Int.le_of_eq (Option.some.inj secondRead)
    | some second => exact (secondTicks?_eq_some_iff.mp secondRead).bounds.1
  opposite read total := holds_opposite (amount_of_ticks? read) total

end Reading

open Grammar Reading

theorem ofTicks?_eq_some_iff {ticks : Int} {span : TimeSpan} :
    ofTicks? ticks = some span ↔ span.ticks = ticks := by
  constructor
  · intro made
    obtain ⟨_, same⟩ := Option.dite_none_right_eq_some.mp made
    exact congrArg TimeSpan.ticks (Option.some.inj same).symm
  · rintro rfl
    exact ofTicks?_of_holds span.holds

theorem ofText?_eq_some_iff (text : List Char) (span : TimeSpan) :
    ofText? text = some span ↔ Whole Signed (Text.trim text) span.ticks ∧ span ≠ least := by
  rw [ofText?]
  rcases Text.stripLeading?_cases '-' (Text.trim text) with ⟨noMinus, strip⟩ | ⟨rest, cut, strip⟩
  · simp only [strip, Option.bind_eq_some_iff, ofTicks?_eq_some_iff, whole_unsigned_iff noMinus]
    constructor
    · rintro ⟨_, read, rfl⟩
      have isAmount := amount_of_ticks? read
      exact ⟨isAmount, fun isLeast => isAmount.ne_least ((eq_least_iff span).mp isLeast)⟩
    · rintro ⟨isAmount, _⟩
      exact ⟨_, ticks?_of_amount isAmount span.holds, rfl⟩
  · simp only [strip, Option.bind_eq_some_iff, ofTicks?_eq_some_iff]
    rw [cut, whole_minus_iff, ← holds_neg_iff]
    constructor
    · rintro ⟨_, read, opposite, rfl, negated⟩
      rw [negated, Int.neg_neg]
      exact ⟨amount_of_ticks? read, opposite.holds⟩
    · rintro ⟨isAmount, holds⟩
      exact ⟨_, ticks?_of_amount isAmount holds, ⟨_, holds⟩, rfl, (Int.neg_neg _).symm⟩

/-- A text is read as the span of its total if it is in the grammar over signed numbers and that
span is not the least one. The constant format is the part of that grammar with no further sign. So
what is read is what is in that format, unless there is a further sign or the total is the least
one, and not both. Nothing on the way from the fields to the span leaves 64 bits. -/
theorem reads_grammar (text : List Char) :
    (∀ span, ofText? text = some span ↔
      Whole Signed (Text.trim text) span.ticks ∧ span ≠ least) ∧
      (∀ ticks, Whole Plain (Text.trim text) ticks ↔
        Whole Signed (Text.trim text) ticks ∧ ¬HasFurtherSign (Text.trim text)) ∧
      ((∀ span, ofText? text = some span ↔ Whole Plain (Text.trim text) span.ticks) ↔
        ∀ span, Whole Signed (Text.trim text) span.ticks →
          (span = least ↔ HasFurtherSign (Text.trim text))) ∧
      Contained := by
  refine ⟨ofText?_eq_some_iff text, fun _ => whole_plain_iff, forall_congr' fun span => ?_,
    contained⟩
  rw [ofText?_eq_some_iff, whole_plain_iff, and_congr_right_iff, ne_eq, not_iff_not]

/-- The sign of the whole and that of the day count cancel each other. -/
example :
    (ofText? "--5".toList).map ticks = some (5 * ticksPerDay) ∧
      (ofText? "+1:-0:+30".toList).map ticks = some (36300000000 : Int) := by
  decide

end Formula.TimeSpan
