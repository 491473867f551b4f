import Formula.Proofs.Time.Comparison

/-!
The text of an instant is read back as the instant, to the second. The text has the month in front,
in two digits and before a slash; the readers that want a year there do not get past it, and so the
text comes to the one layout that it was written in.
-/

namespace Formula

namespace DateTime

namespace Reading

open TimeSpan (padded length_padded isDigit_of_mem_padded padded_ne_nil ofDigits_padded)

variable {width most fewest number : Nat} {low high : Int} {mark : Char} {digits rest : List Char}

theorem number?_of_takeWhile
    (taken : ((digits ++ rest).take most).takeWhile Char.isDigit = digits) :
    number? fewest most (digits ++ rest) =
      if digits.length < fewest then none else some ((Numeral.ofDigits digits : Int), rest) := by
  simp only [number?, taken, List.drop_left]

theorem number?_padded (positive : 0 < width) (fits : number < 10 ^ width) (enough : fewest ≤ width)
    (rest : List Char) :
    number? fewest width (padded width number ++ rest) = some ((number : Int), rest) := by
  have length := length_padded positive fits
  have taken : ((padded width number ++ rest).take width).takeWhile Char.isDigit =
      padded width number := by
    rw [List.take_left' length, List.takeWhile_eq_self_iff]
    exact fun _ => isDigit_of_mem_padded
  rw [number?_of_takeWhile taken, length, if_neg (Nat.not_lt.mpr enough), ofDigits_padded]

theorem number?_padded_mark (positive : 0 < width) (fits : number < 10 ^ width) (few : width < most)
    (other : mark.isDigit = false) (rest : List Char) :
    number? fewest most (padded width number ++ mark :: rest) =
      if width < fewest then none else some ((number : Int), mark :: rest) := by
  have length := length_padded positive fits
  obtain ⟨more, left⟩ : ∃ more, most - width = more + 1 := ⟨most - width - 1, by omega⟩
  have taken : ((padded width number ++ mark :: rest).take most).takeWhile Char.isDigit =
      padded width number := by
    rw [List.take_append, List.take_of_length_le (by omega), length, left, List.take_succ_cons,
      List.takeWhile_append_of_pos fun _ => isDigit_of_mem_padded,
      List.takeWhile_cons_of_neg (by simp [other]), List.append_nil]
  rw [number?_of_takeWhile taken, length, ofDigits_padded]

theorem padded_eq_cons (width number : Nat) :
    ∃ first others, padded width number = first :: others ∧ first.isDigit = true := by
  obtain ⟨first, others, shown⟩ := List.exists_cons_of_ne_nil (padded_ne_nil width number)
  exact ⟨first, others, shown, isDigit_of_mem_padded (shown ▸ List.mem_cons_self ..)⟩

theorem trimStart_padded (width number : Nat) (rest : List Char) :
    Text.trimStart (padded width number ++ rest) = padded width number ++ rest := by
  obtain ⟨first, others, shown, digit⟩ := padded_eq_cons width number
  rw [shown]
  exact List.dropWhile_cons_of_neg (by simp [Text.isBlank_of_isDigit digit])

theorem small?_padded (fits : number < 100) (range : low ≤ number ∧ number ≤ high)
    (rest : List Char) : small? low high (padded 2 number ++ rest) = some ((number : Int), rest) := by
  have read := number?_padded (show 0 < 2 by decide) fits (show 1 ≤ 2 by decide) rest
  simp [small?, trimStart_padded, read, inRange, range]

theorem year?_padded {year : Int} {behind : List Char}
    (read : number? 1 4 (padded width number ++ rest) = some (year, behind))
    (range : 0 ≤ year ∧ year ≤ 9999) :
    year? (padded width number ++ rest) = some (year, behind) := by
  obtain ⟨first, others, shown, digit⟩ := padded_eq_cons width number
  unfold year?
  rw [trimStart_padded]
  rw [shown] at read ⊢
  dsimp only
  split
  · next minus =>
      cases (List.cons.inj minus).1
      cases digit
  · next plus =>
      cases (List.cons.inj plus).1
      cases digit
  · have inside : inRange Calendar.leastYear Calendar.greatestYear year = some year :=
      if_pos ⟨Int.le_trans (by decide) range.1, Int.le_trans range.2 (by decide)⟩
    rw [read]
    simp [inside]

theorem readItems_dash (fits : number < 100) (rest : List Char) (items : List Item) :
    readItems {} (padded 2 number ++ '/' :: rest) (.year :: .mark '-' :: items) = none := by
  have read : number? 1 4 (padded 2 number ++ '/' :: rest) = some ((number : Int), '/' :: rest) :=
    number?_padded_mark (by decide) fits (by decide) rfl rest
  have isYear := year?_padded read (by omega)
  simp [readItems, Item.read, isYear, Text.stripLeading?]

theorem withOffset?_month (zone : TimeZone) (fits : number < 100) (rest : List Char) :
    withOffset? zone (padded 2 number ++ '/' :: rest) = none := by
  have unread : number? 4 4 (padded 2 number ++ '/' :: rest) = none :=
    number?_padded_mark (by decide) fits (by decide) rfl rest
  have noYear : fixedWidth? 0 9999 4 (padded 2 number ++ '/' :: rest) = none := by
    rw [fixedWidth?, unread]
    rfl
  rw [withOffset?, noYear]
  rfl

theorem readItems_gap (fields : Fields) (number : Nat) (rest : List Char) (items : List Item) :
    readItems fields (' ' :: (padded 2 number ++ rest)) (.gap :: items) =
      readItems fields (padded 2 number ++ rest) items :=
  congrArg (readItems fields · items) (trimStart_padded 2 number rest)

theorem readItems_slashDate {month day year : Nat} (months : 1 ≤ month ∧ month ≤ 12)
    (days : 1 ≤ day ∧ day ≤ 31) (years : year ≤ 9999) (rest : List Char) (items : List Item) :
    readItems {} (padded 2 month ++ '/' :: (padded 2 day ++ '/' :: (padded 4 year ++ rest)))
        (slashDate ++ items) =
      readItems { year := year, month := month, day := day } rest items := by
  have isMonth := small?_padded (show month < 100 by omega)
    (show (1 : Int) ≤ month ∧ (month : Int) ≤ 12 by omega)
  have isDay := small?_padded (show day < 100 by omega)
    (show (1 : Int) ≤ day ∧ (day : Int) ≤ 31 by omega)
  have fourDigits := number?_padded (show 0 < 4 by decide) (show year < 10 ^ 4 by omega)
    (show 1 ≤ 4 by decide) rest
  have isYear := year?_padded fourDigits (by omega)
  simp [slashDate, readItems, Item.read, isMonth, isDay, isYear, Text.stripLeading?_self]

theorem readItems_clock {hour minute second : Nat} (hours : hour ≤ 23) (minutes : minute ≤ 59)
    (seconds : second ≤ 60) (fields : Fields) :
    readItems fields (padded 2 hour ++ ':' :: (padded 2 minute ++ ':' :: padded 2 second)) clock =
      some { fields with hour := hour, minute := minute, second := second } := by
  have isHour := small?_padded (show hour < 100 by omega)
    (show (0 : Int) ≤ hour ∧ (hour : Int) ≤ 23 by omega)
  have isMinute := small?_padded (show minute < 100 by omega)
    (show (0 : Int) ≤ minute ∧ (minute : Int) ≤ 59 by omega)
  have isSecond := small?_padded (show second < 100 by omega)
    (show (0 : Int) ≤ second ∧ (second : Int) ≤ 60 by omega) []
  rw [List.append_nil] at isSecond
  simp [clock, readItems, Item.read, isHour, isMinute, isSecond, Text.stripLeading?_self]

/-- Of the layouts, the first that takes the text is its own. -/
theorem unspecified?_slashes {month day year hour minute second : Nat} {moment : DateTime}
    (months : 1 ≤ month ∧ month ≤ 12) (days : 1 ≤ day ∧ day ≤ 31) (years : year ≤ 9999)
    (hours : hour ≤ 23) (minutes : minute ≤ 59) (seconds : second ≤ 60)
    (made : Fields.moment? ⟨year, month, day, hour, minute, second, 0⟩ .unspecified = some moment) :
    unspecified? (padded 2 month ++ '/' :: (padded 2 day ++ '/' :: (padded 4 year ++ ' ' ::
        (padded 2 hour ++ ':' :: (padded 2 minute ++ ':' :: padded 2 second))))) = some moment := by
  have dashed (items : List Item) (rest : List Char) :
      readItems {} (padded 2 month ++ '/' :: rest) (isoDate ++ items) = none :=
    readItems_dash (by omega) rest _
  have slashed := readItems_slashDate months days years (' ' ::
    (padded 2 hour ++ ':' :: (padded 2 minute ++ ':' :: padded 2 second))) (.gap :: clock)
  rw [readItems_gap, readItems_clock hours minutes seconds] at slashed
  simp only [unspecified?, layouts, List.append_assoc, List.findSome?_cons, dashed, slashed,
    Option.bind_none, Option.bind_some, made]

end Reading

variable {moment : DateTime}

/-- The second as it is shown, which is the sixtieth in a leap second. -/
def shownSecond (moment : DateTime) : Nat :=
  moment.secondOfMinute + moment.nanosecond / 1000000000

/-- The start of the second, on a clock that is not known. -/
def startOfSecond (moment : DateTime) : DateTime :=
  { moment with
    nanosecond := moment.nanosecond / 1000000000 * 1000000000
    kind := .unspecified }

open TimeSpan (padded) in
theorem toChars_eq (moment : DateTime) :
    moment.toChars = padded 2 moment.calendarDate.month ++ '/' ::
      (padded 2 moment.calendarDate.day ++ '/' ::
        (padded 4 moment.calendarDate.year.toNat ++ ' ' ::
          (padded 2 moment.hour ++ ':' :: (padded 2 moment.minute ++ ':' ::
            padded 2 moment.shownSecond)))) := by
  simp [toChars, shownSecond]

theorem trim_toChars (moment : DateTime) : Text.trim moment.toChars = moment.toChars := by
  have solid (number : Nat) :
      ∀ char ∈ TimeSpan.padded 2 number, Text.isBlank char = false := fun _ member =>
    Text.isBlank_of_isDigit (TimeSpan.isDigit_of_mem_padded member)
  apply Text.trim_of_ends
  · intro first isFirst
    rw [toChars_eq, List.head?_append_of_ne_nil _ (TimeSpan.padded_ne_nil 2 _)] at isFirst
    exact solid _ first (List.mem_of_head? isFirst)
  · intro last isLast
    have shown := List.getLast?_eq_some_getLast (TimeSpan.padded_ne_nil 2 moment.shownSecond)
    have isDigit := solid moment.shownSecond _ (List.mem_of_mem_getLast? shown)
    simp only [toChars_eq, List.getLast?_append, List.getLast?_cons, shown, Option.getD_some,
      Option.some_or, Option.mem_some] at isLast
    exact isLast ▸ isDigit

theorem OnClock.shownSecond_cases (onClock : moment.OnClock) :
    moment.shownSecond = 60 ∧ moment.secondOfMinute = 59 ∧
        moment.nanosecond / 1000000000 = 1 ∨
      moment.shownSecond = moment.secondOfMinute ∧ moment.shownSecond ≤ 59 ∧
        moment.nanosecond / 1000000000 = 0 := by
  have bounded := onClock.nanosecond_lt
  have inMinute : moment.secondOfMinute ≤ 59 := by
    unfold secondOfMinute
    omega
  unfold shownSecond
  by_cases leap : 1000000000 ≤ moment.nanosecond
  · have last := onClock.minuteEnd leap
    omega
  · omega

theorem moment?_shown (timely : moment.Timely) (onClock : moment.OnClock) :
    Reading.Fields.moment?
        ⟨moment.calendarDate.year.toNat, moment.calendarDate.month, moment.calendarDate.day,
          moment.hour, moment.minute, moment.shownSecond, 0⟩ .unspecified =
      some moment.startOfSecond := by
  have years := timely.year_pos
  have isYear : (moment.calendarDate.year.toNat : Int) = moment.calendarDate.year := by omega
  have isDay : Calendar.dayNumber moment.calendarDate = moment.day :=
    Calendar.dayNumber_dateOf moment.day
  have valid : Calendar.isValid moment.calendarDate = true := Calendar.isValid_dateOf moment.day
  unfold Reading.Fields.moment?
  simp only [isYear, Int.toNat_natCast, valid, if_true, isDay, Option.some.injEq]
  have clock : moment.hour * 3600 + moment.minute * 60 + moment.secondOfMinute =
      moment.second := by
    unfold hour minute secondOfMinute
    omega
  rw [startOfSecond, mk.injEq]
  refine ⟨rfl, ?_, ?_, rfl⟩
  · rcases onClock.shownSecond_cases with ⟨sixtieth, last, _⟩ | ⟨same, shown, _⟩
    · rw [if_pos (by omega)]
      omega
    · rw [if_neg (by omega)]
      omega
  · rcases onClock.shownSecond_cases with ⟨sixtieth, _, leap⟩ | ⟨_, shown, none⟩
    · rw [if_pos (by omega), leap]
      omega
    · rw [if_neg (by omega), none]
      omega

/-- The text of an instant is read back as the start of its second. -/
theorem ofText_toText (zone : TimeZone) (timely : moment.Timely) (onClock : moment.OnClock) :
    ofText zone moment.toText = .ok moment.startOfSecond := by
  have valid : Calendar.isValid moment.calendarDate = true := Calendar.isValid_dateOf moment.day
  obtain ⟨month, lastMonth, day, lastDay⟩ := (Calendar.isValid_iff _).mp valid
  have length := Calendar.daysInMonth_mem moment.calendarDate.year moment.calendarDate.month
  have year := timely.year_le
  have second := timely.second_lt
  have inside := (year_mem_iff moment).mp ⟨timely.year_pos, timely.year_le⟩
  have read := Reading.unspecified?_slashes ⟨month, lastMonth⟩ ⟨day, by omega⟩
    (show moment.calendarDate.year.toNat ≤ 9999 by omega)
    (show moment.hour ≤ 23 by unfold hour; omega) (show moment.minute ≤ 59 by unfold minute; omega)
    (show moment.shownSecond ≤ 60 by have := onClock.shownSecond_cases; omega)
    (moment?_shown timely onClock)
  have noOffset := Reading.withOffset?_month zone
    (show moment.calendarDate.month < 100 by omega)
  have trimmed : Text.trim moment.toText.toList = moment.toChars := by
    rw [toText, String.toList_ofList, trim_toChars]
  have found : ((Reading.withOffset? zone moment.toChars).orElse fun _ =>
      Reading.unspecified? moment.toChars) = some moment.startOfSecond := by
    rw [toChars_eq, noOffset]
    exact read
  simp only [ofText, trimmed, found]
  exact checked_eq_ok.mpr ⟨inside, rfl⟩

theorem ticks_startOfSecond {ticks : Int} {kind : DateTimeKind}
    (made : ofTicks ticks kind = .ok moment) :
    moment.startOfSecond.ticks =
      ticks / TimeSpan.ticksPerSecond * TimeSpan.ticksPerSecond := by
  have range := ofTicks_mem made
  rw [ofTicks_of_mem range, Except.ok.injEq] at made
  subst made
  rw [TimeSpan.ticksPerSecond_eq, ticks_eq]
  simp only [startOfSecond, tickOfSecond]
  omega

/-- The text of any number of ticks is read back as that number without the part of a second that
is in it. -/
theorem ofText_toText_ofTicks {ticks : Int} (range : 0 ≤ ticks ∧ ticks ≤ greatestTicks)
    (kind : DateTimeKind) (zone : TimeZone) :
    ∃ moment read, ofTicks ticks kind = .ok moment ∧ ofText zone moment.toText = .ok read ∧
      read.kind = .unspecified ∧
      read.ticks = ticks / TimeSpan.ticksPerSecond * TimeSpan.ticksPerSecond := by
  obtain ⟨moment, made⟩ := (ofTicks_isOk_iff ticks kind).mpr range
  have timely := (ofTicks_spec made).1
  exact ⟨moment, moment.startOfSecond, made,
    ofText_toText zone timely (ofTicks_onClock made), rfl, ticks_startOfSecond made⟩

/-- The last tick of a leap day in the first century. -/
theorem ofText_toText_ofTicks_leapDay :
    (0 ≤ (24981695999999999 : Int) ∧ (24981695999999999 : Int) ≤ greatestTicks) ∧
      ∃ moment read, ofTicks 24981695999999999 .universal = .ok moment ∧
        moment.toText = "02/29/0080 23:59:59" ∧ ofText .universal moment.toText = .ok read ∧
        read.kind = .unspecified ∧ read.ticks = 24981695990000000 := by
  have range : 0 ≤ (24981695999999999 : Int) ∧ (24981695999999999 : Int) ≤ greatestTicks := by
    decide
  obtain ⟨moment, read, made, isRead, kind, ticks⟩ :=
    ofText_toText_ofTicks range .universal .universal
  have shown : moment.toText = "02/29/0080 23:59:59" := by
    rw [ofTicks_of_mem range, Except.ok.injEq] at made
    subst made
    decide +kernel
  exact ⟨range, moment, read, made, shown, isRead, kind, ticks⟩

end DateTime

end Formula
