import Formula.Proofs.Number.Integer
import Formula.Proofs.Number.Numeral
import Formula.Proofs.Text.Search
import Formula.Time.TimeSpan

/-!
The text of a span is read back as the span, part by part: the days and hours, the minutes, and
the seconds with their fraction. The reader puts the parts together before it takes the sign into
account, and so the least span, which has no opposite, is the one that it does not get back.
-/

namespace Formula

namespace TimeSpan

@[simp] theorem ticksPerSecond_eq : ticksPerSecond = 10000000 := rfl
@[simp] theorem ticksPerMinute_eq : ticksPerMinute = 600000000 := rfl
@[simp] theorem ticksPerHour_eq : ticksPerHour = 36000000000 := rfl
@[simp] theorem ticksPerDay_eq : ticksPerDay = 864000000000 := rfl

theorem holds_iff (ticks : Int) :
    IntegerKind.int64.Holds ticks ↔
      -9223372036854775808 ≤ ticks ∧ ticks ≤ 9223372036854775807 :=
  Iff.rfl

theorem ticks_inj {left right : TimeSpan} : left.ticks = right.ticks ↔ left = right := by
  cases left
  cases right
  rw [mk.injEq]

theorem eq_least_iff (span : TimeSpan) : span = least ↔ span.ticks = -9223372036854775808 :=
  ticks_inj.symm

theorem ticks_wrap {ticks : Int} (holds : IntegerKind.int64.Holds ticks) :
    (wrap ticks).ticks = ticks :=
  IntegerKind.wrap_of_holds holds

theorem ofTicks?_of_holds {ticks : Int} (holds : IntegerKind.int64.Holds ticks) :
    ofTicks? ticks = some ⟨ticks, holds⟩ :=
  dif_pos holds

theorem negate_of_holds {span : TimeSpan} (holds : IntegerKind.int64.Holds (-span.ticks)) :
    span.negate = .ok ⟨-span.ticks, holds⟩ := by
  rw [negate, ofTicks, ofTicks?_of_holds holds]

theorem holds_neg_iff (span : TimeSpan) :
    IntegerKind.int64.Holds (-span.ticks) ↔ span ≠ least := by
  have bounds := (holds_iff span.ticks).mp span.holds
  rw [holds_iff, ne_eq, eq_least_iff]
  omega

variable {width number : Nat}

theorem padded_zero (number : Nat) : padded 0 number = Nat.toDigits 10 number := by
  simp [padded]

theorem isDigit_of_mem_padded {char : Char} (member : char ∈ padded width number) :
    char.isDigit = true :=
  (Numeral.isDigits_zeros_append _ number).2 char member

theorem padded_ne_nil (width number : Nat) : padded width number ≠ [] :=
  (Numeral.isDigits_zeros_append _ number).1

theorem length_padded (some : 0 < width) (fits : number < 10 ^ width) :
    (padded width number).length = width := by
  have short := (Nat.length_toDigits_le_iff (by decide) some).mpr fits
  simp only [padded, List.length_append, List.length_replicate]
  omega

theorem ofDigits_padded (width number : Nat) :
    Numeral.ofDigits (padded width number) = number :=
  Numeral.ofDigits_zeros_append _ number

namespace Reading

theorem field?_padded (width : Nat) (fits : number ≤ 9223372036854775807) :
    field? (padded width number) = some (number : Int) := by
  have holds : IntegerKind.int64.Holds (Numeral.ofDigits (padded width number)) := by
    rw [ofDigits_padded, holds_iff]
    omega
  have read := Numeral.integerOf?_of_digits rfl (padded_ne_nil width number)
    (fun _ => isDigit_of_mem_padded) holds
  rw [field?, read]
  exact congrArg (fun value : Nat => some (value : Int)) (ofDigits_padded width number)

theorem fieldBelow?_padded (width : Nat) {bound : Nat} (below : number < bound)
    (small : bound ≤ 60) : fieldBelow? bound (padded width number) = some (number : Int) := by
  rw [fieldBelow?, field?_padded width (by omega)]
  simp [below]

theorem fraction?_padded (fits : number < 10000000) :
    fraction? (padded 7 number) = some (number : Int) := by
  have length : (padded 7 number).length = 7 := length_padded (by decide) fits
  have read := Numeral.natural?_of_digits (padded_ne_nil 7 number)
    (fun _ => isDigit_of_mem_padded)
  rw [ofDigits_padded] at read
  simp [fraction?, length, read]

end Reading

def headChars (magnitude : Nat) : List Char :=
  let days := magnitude / 864000000000
  let hours := padded 2 (magnitude / 36000000000 % 24)
  if days = 0 then hours else padded 0 days ++ '.' :: hours

def minuteChars (magnitude : Nat) : List Char :=
  padded 2 (magnitude / 600000000 % 60)

def secondChars (magnitude : Nat) : List Char :=
  let seconds := padded 2 (magnitude / 10000000 % 60)
  let fraction := magnitude % 10000000
  if fraction = 0 then seconds else seconds ++ '.' :: padded 7 fraction

def unsignedChars (magnitude : Nat) : List Char :=
  headChars magnitude ++ ':' :: (minuteChars magnitude ++ ':' :: secondChars magnitude)

variable {magnitude : Nat} {char : Char}

theorem headChars_eq (magnitude : Nat) :
    headChars magnitude =
      (if magnitude / 864000000000 = 0 then []
        else Nat.toDigits 10 (magnitude / 864000000000) ++ ['.']) ++
        padded 2 (magnitude / 36000000000 % 24) := by
  simp only [headChars]
  split
  · rfl
  · simp [padded_zero]

theorem secondChars_eq (magnitude : Nat) :
    secondChars magnitude =
      padded 2 (magnitude / 10000000 % 60) ++
        if magnitude % 10000000 = 0 then [] else '.' :: padded 7 (magnitude % 10000000) := by
  simp only [secondChars]
  split
  · exact (List.append_nil _).symm
  · rfl

theorem toChars_eq (span : TimeSpan) :
    span.toChars =
      (if span.ticks < 0 then ['-'] else []) ++ unsignedChars span.ticks.natAbs := by
  rw [unsignedChars, headChars_eq, minuteChars, secondChars_eq]
  simp only [toChars, ticksPerDay_eq, ticksPerHour_eq, ticksPerMinute_eq, ticksPerSecond_eq,
    Int.reduceToNat, List.append_assoc, List.cons_append]
  rfl

def IsNumeral (chars : List Char) : Prop :=
  ∀ char ∈ chars, char.isDigit = true ∨ char = '.'

theorem isNumeral_padded (width number : Nat) : IsNumeral (padded width number) :=
  fun _ member => .inl (isDigit_of_mem_padded member)

theorem IsNumeral.pointed {left right : List Char} (isLeft : IsNumeral left)
    (isRight : IsNumeral right) : IsNumeral (left ++ '.' :: right) := by
  intro char member
  rcases List.mem_append.mp member with before | behind
  · exact isLeft char before
  · rcases List.mem_cons.mp behind with point | after
    · exact .inr point
    · exact isRight char after

theorem isNumeral_headChars (magnitude : Nat) : IsNumeral (headChars magnitude) := by
  simp only [headChars]
  split
  · exact isNumeral_padded _ _
  · exact (isNumeral_padded _ _).pointed (isNumeral_padded _ _)

theorem isNumeral_secondChars (magnitude : Nat) : IsNumeral (secondChars magnitude) := by
  simp only [secondChars]
  split
  · exact isNumeral_padded _ _
  · exact (isNumeral_padded _ _).pointed (isNumeral_padded _ _)

theorem IsNumeral.not_mem {chars : List Char} (isNumeral : IsNumeral chars)
    (notDigit : char.isDigit = false) (notPoint : char ≠ '.') : char ∉ chars := by
  intro member
  rcases isNumeral char member with digit | point
  · rw [notDigit] at digit
    cases digit
  · exact notPoint point

theorem point_not_mem_padded (width number : Nat) : '.' ∉ padded width number := by
  intro member
  cases isDigit_of_mem_padded member

theorem mem_unsignedChars (member : char ∈ unsignedChars magnitude) :
    char.isDigit = true ∨ char = '.' ∨ char = ':' := by
  simp only [unsignedChars, List.mem_append, List.mem_cons] at member
  rcases member with head | colon | minute | colon | second
  · exact (isNumeral_headChars magnitude char head).imp_right .inl
  · exact .inr (.inr colon)
  · exact (isNumeral_padded _ _ char minute).imp_right .inl
  · exact .inr (.inr colon)
  · exact (isNumeral_secondChars magnitude char second).imp_right .inl

namespace Reading

theorem daysAndHours?_headChars (fits : magnitude ≤ 9223372036854775808) :
    daysAndHours? (headChars magnitude) =
      some (((magnitude / 864000000000 : Nat) : Int),
        ((magnitude / 36000000000 % 24 : Nat) : Int)) := by
  have hours : fieldBelow? 24 (padded 2 (magnitude / 36000000000 % 24)) =
      some ((magnitude / 36000000000 % 24 : Nat) : Int) :=
    fieldBelow?_padded 2 (Nat.mod_lt _ (by decide)) (by decide)
  simp only [headChars]
  split
  · next none =>
      rw [daysAndHours?, Text.cutAt?_of_not_mem (point_not_mem_padded _ _), none]
      simp only [hours, Option.map_some, Nat.cast_zero]
  · have days : field? (padded 0 (magnitude / 864000000000)) =
        some ((magnitude / 864000000000 : Nat) : Int) := field?_padded 0 (by omega)
    have counted : (0 : Int) ≤ (magnitude / 864000000000 : Nat) := Int.natCast_nonneg _
    rw [daysAndHours?, Text.cutAt?_append (point_not_mem_padded _ _)]
    simp only [days, hours, Option.filter_some, counted, decide_true, if_true]
    rfl

theorem fieldBelow?_minuteChars (magnitude : Nat) :
    fieldBelow? 60 (minuteChars magnitude) = some ((magnitude / 600000000 % 60 : Nat) : Int) :=
  fieldBelow?_padded 2 (Nat.mod_lt _ (by decide)) (by decide)

theorem secondTicks?_secondChars (magnitude : Nat) :
    secondTicks? (secondChars magnitude) =
      some (((magnitude / 10000000 % 60 : Nat) : Int) * ticksPerSecond +
        (magnitude % 10000000 : Nat)) := by
  have seconds : fieldBelow? 60 (padded 2 (magnitude / 10000000 % 60)) =
      some ((magnitude / 10000000 % 60 : Nat) : Int) :=
    fieldBelow?_padded 2 (Nat.mod_lt _ (by decide)) (by decide)
  simp only [secondChars]
  split
  · next none =>
      rw [secondTicks?, Text.cutAt?_of_not_mem (point_not_mem_padded _ _), none]
      simp only [seconds, Option.map_some, Nat.cast_zero, Int.add_zero]
  · have fraction := fraction?_padded (Nat.mod_lt magnitude (show 10000000 > 0 by decide))
    rw [secondTicks?, Text.cutAt?_append (point_not_mem_padded _ _)]
    simp only [seconds, fraction]
    rfl

/-- The parts add up to the ticks they were taken from. -/
theorem ticks?_unsignedChars (fits : magnitude ≤ 9223372036854775808) :
    ticks? (unsignedChars magnitude) = some (magnitude : Int) := by
  have head : ':' ∉ headChars magnitude :=
    (isNumeral_headChars magnitude).not_mem (by decide) (by decide)
  have minutes : ':' ∉ minuteChars magnitude :=
    (isNumeral_padded 2 _).not_mem (by decide) (by decide)
  have seconds : ':' ∉ secondChars magnitude :=
    (isNumeral_secondChars magnitude).not_mem (by decide) (by decide)
  rw [ticks?, unsignedChars, Text.splitOn_append head, Text.splitOn_append minutes,
    Text.splitOn_of_not_mem seconds]
  simp only [clockTicks?, daysAndHours?_headChars fits, fieldBelow?_minuteChars, Option.map_some,
    Option.getD_some, secondTicks?_secondChars, Option.bind_eq_bind, Option.bind_some,
    Option.pure_def, ticksPerDay_eq, ticksPerHour_eq, ticksPerMinute_eq, ticksPerSecond_eq,
    Option.some.injEq]
  omega

end Reading

theorem isNumeral_not_blank (member : char ∈ unsignedChars magnitude) :
    Text.isBlank char = false := by
  rcases mem_unsignedChars member with digit | rfl | rfl
  · exact Text.isBlank_of_isDigit digit
  · rfl
  · rfl

theorem minus_not_mem_unsignedChars (magnitude : Nat) : '-' ∉ unsignedChars magnitude := by
  intro member
  rcases mem_unsignedChars member with digit | point | colon
  · cases digit
  · cases point
  · cases colon

theorem trim_toChars (span : TimeSpan) : Text.trim span.toChars = span.toChars := by
  apply Text.trim_of_not_blank
  rw [toChars_eq]
  intro char member
  rcases List.mem_append.mp member with sign | part
  · split at sign
    · rw [List.mem_singleton.mp sign]
      rfl
    · cases sign
  · exact isNumeral_not_blank part

/-- The text of a span reads back as the span, but for the least one: without its sign, that is one
tick more than fits, and its text is refused. -/
theorem reads_toText (span : TimeSpan) :
    ofText? span.toText.toList = if span = least then none else some span := by
  have bounds := (holds_iff span.ticks).mp span.holds
  have read : Reading.ticks? (unsignedChars span.ticks.natAbs) = some (span.ticks.natAbs : Int) :=
    Reading.ticks?_unsignedChars (by omega)
  rw [toText, String.toList_ofList, ofText?, trim_toChars, toChars_eq]
  by_cases negative : span.ticks < 0
  · simp only [if_pos negative, List.singleton_append, Text.stripLeading?_self, read,
      Option.bind_some]
    by_cases isLeast : span = least
    · have tooMuch : ¬IntegerKind.int64.Holds (span.ticks.natAbs : Int) := by
        rw [eq_least_iff] at isLeast
        rw [holds_iff]
        omega
      rw [if_pos isLeast, ofTicks?, dif_neg tooMuch]
      rfl
    · have magnitude : (span.ticks.natAbs : Int) = -span.ticks := by omega
      have holds := (holds_neg_iff span).mpr isLeast
      simp only [if_neg isLeast, magnitude, ofTicks?_of_holds holds, Option.bind_some,
        Int.neg_neg, ofTicks?_of_holds span.holds]
  · have notLeast : span ≠ least := by
      rw [ne_eq, eq_least_iff]
      omega
    have magnitude : (span.ticks.natAbs : Int) = span.ticks := by omega
    simp only [if_neg negative, if_neg notLeast, List.nil_append,
      Text.stripLeading?_of_not_mem (minus_not_mem_unsignedChars _), read, Option.bind_some,
      magnitude, ofTicks?_of_holds span.holds]

/-- The least span has a text, which is not read. -/
example :
    least.toText = "-10675199.02:48:05.4775808" ∧ ofText? least.toText.toList = none := by
  decide +kernel

end TimeSpan

end Formula
