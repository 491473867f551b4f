import Formula.Proofs.Number.Numeral
import Formula.Proofs.Time.Instants
import Formula.Time.Reading
import Mathlib.Data.List.TakeWhile

/-!
What is read from a text is a time of day: every layout checks its fields one by one, and so the
fields together make no more than a day. Only a leap second runs on past a second, and a leap
second ends a minute on every clock that is whole minutes ahead of universal time.
-/

namespace Formula

/-- The clock of the zone ends its minutes when universal time does. -/
structure TimeZone.KeepsMinutes (zone : TimeZone) : Prop where
  offsetAt : ∀ time, 60 ∣ (zone.offsetAt time).seconds
  offsetShowing? : ∀ time offset, zone.offsetShowing? time = some offset → 60 ∣ offset.seconds

theorem TimeZone.keepsMinutes_universal : universal.KeepsMinutes where
  offsetAt _ := Int.dvd_zero 60
  offsetShowing? := by
    rintro _ _ ⟨⟩
    exact Int.dvd_zero 60

namespace DateTime

/-- A time of day that runs on past a second by no more than one of them. -/
structure InDay (moment : DateTime) : Prop where
  second_lt : moment.second < 86400
  nanosecond_lt : moment.nanosecond < 2000000000

/-- A time of day in which only the end of a minute runs on past its second. -/
structure OnClock (moment : DateTime) : Prop extends InDay moment where
  minuteEnd : 1000000000 ≤ moment.nanosecond → moment.secondOfMinute = 59

variable {zone : TimeZone} {moment : DateTime} {lead : Int}

theorem InDay.ahead (inDay : moment.InDay) (lead : Int) : (moment.ahead lead).InDay where
  second_lt := by
    dsimp only [DateTime.ahead]
    omega
  nanosecond_lt := inDay.nanosecond_lt

theorem secondOfMinute_ahead (minutes : 60 ∣ lead) :
    (moment.ahead lead).secondOfMinute = moment.secondOfMinute := by
  dsimp only [secondOfMinute, DateTime.ahead]
  omega

theorem OnClock.ahead (onClock : moment.OnClock) (minutes : 60 ∣ lead) :
    (moment.ahead lead).OnClock where
  toInDay := onClock.toInDay.ahead lead
  minuteEnd leap := (secondOfMinute_ahead minutes).trans (onClock.minuteEnd leap)

theorem InDay.onClockOf (inDay : moment.InDay) : (moment.onClockOf zone).InDay :=
  have inDay := inDay.ahead (zone.offsetAt moment.seconds).seconds
  { inDay with }

theorem OnClock.onClockOf (onClock : moment.OnClock) (keeps : zone.KeepsMinutes) :
    (moment.onClockOf zone).OnClock :=
  have onClock := onClock.ahead (keeps.offsetAt moment.seconds)
  { onClock with }

namespace Reading

variable {low high value : Int} {text rest : List Char}

theorem inRange_eq_some {checked : Int} :
    inRange low high value = some checked ↔ (low ≤ value ∧ value ≤ high) ∧ value = checked := by
  unfold inRange
  split
  · next range => simp only [range, and_self, true_and, Option.some.injEq]
  · next outside => simp only [outside, false_and, reduceCtorEq]

theorem number?_bounds {fewest most : Nat} (read : number? fewest most text = some (value, rest)) :
    0 ≤ value ∧ value < ((10 ^ (text.length - rest.length) : Nat) : Int) ∧
      text.length - rest.length ≤ most := by
  unfold number? at read
  extract_lets digits at read
  split at read
  · cases read
  · obtain ⟨rfl, rfl⟩ := Prod.mk.injEq .. ▸ Option.some.inj read
    have areDigits : ∀ char ∈ digits, char.isDigit := fun _ => List.mem_takeWhile_imp
    have fits := Numeral.ofDigits_lt areDigits
    have isPart : digits.length ≤ (text.take most).length :=
      (List.takeWhile_prefix _).length_le
    rw [List.length_take] at isPart
    have taken : text.length - (text.drop digits.length).length = digits.length := by
      rw [List.length_drop]
      omega
    rw [taken]
    omega

theorem small?_range (read : small? low high text = some (value, rest)) :
    low ≤ value ∧ value ≤ high := by
  simp only [small?, Option.bind_eq_bind, Option.bind_eq_some_iff, Option.pure_def,
    Option.some.injEq, Prod.mk.injEq, inRange_eq_some] at read
  obtain ⟨_, _, _, ⟨range, rfl⟩, rfl, _⟩ := read
  exact range

theorem fixedWidth?_range {width : Nat}
    (read : fixedWidth? low high width text = some (value, rest)) :
    low ≤ value ∧ value ≤ high := by
  simp only [fixedWidth?, Option.bind_eq_bind, Option.bind_eq_some_iff, Option.pure_def,
    Option.some.injEq, Prod.mk.injEq, inRange_eq_some] at read
  obtain ⟨_, _, _, ⟨range, rfl⟩, rfl, _⟩ := read
  exact range

theorem nanoseconds?_range (read : nanoseconds? text = some (value, rest)) :
    0 ≤ value ∧ value < 1000000000 := by
  simp only [nanoseconds?, Option.bind_eq_bind, Option.bind_eq_some_iff, Option.pure_def,
    Option.some.injEq, Prod.mk.injEq, Prod.exists] at read
  obtain ⟨number, behind, isNumber, rfl, _⟩ := read
  obtain ⟨nonneg, fits, few⟩ := number?_bounds isNumber
  have scaled : number * ((10 : Nat) ^ (9 - (text.length - behind.length)) : Nat) <
      ((10 ^ (text.length - behind.length) : Nat) : Int) *
        (10 ^ (9 - (text.length - behind.length)) : Nat) :=
    Int.mul_lt_mul_of_pos_right fits (Int.natCast_pos.mpr (Nat.pow_pos (by decide)))
  rw [← Int.natCast_mul, ← Nat.pow_add, Nat.add_sub_cancel' few] at scaled
  exact ⟨Int.mul_nonneg nonneg (Int.natCast_nonneg _), scaled⟩

structure Fields.Bounded (fields : Fields) : Prop where
  hour : 0 ≤ fields.hour ∧ fields.hour ≤ 23
  minute : 0 ≤ fields.minute ∧ fields.minute ≤ 59
  second : 0 ≤ fields.second ∧ fields.second ≤ 60
  nanosecond : 0 ≤ fields.nanosecond ∧ fields.nanosecond < 1000000000

variable {fields filled : Fields}

theorem Fields.bounded_empty : Fields.Bounded {} := by
  constructor <;> decide

theorem Item.read_bounded {item : Item} (bounded : fields.Bounded)
    (read : item.read fields text = some (filled, rest)) : filled.Bounded := by
  cases item <;>
    simp only [Item.read, Option.map_eq_some_iff, Prod.mk.injEq, Prod.exists] at read
  case year | month | day =>
    obtain ⟨_, _, _, rfl, _⟩ := read
    exact { bounded with }
  case hour =>
    obtain ⟨_, _, isSmall, rfl, _⟩ := read
    exact { bounded with hour := small?_range isSmall }
  case minute =>
    obtain ⟨_, _, isSmall, rfl, _⟩ := read
    exact { bounded with minute := small?_range isSmall }
  case second =>
    obtain ⟨_, _, isSmall, rfl, _⟩ := read
    exact { bounded with second := small?_range isSmall }
  case fraction =>
    split at read
    · simp only [Option.map_eq_some_iff, Prod.mk.injEq, Prod.exists] at read
      obtain ⟨_, _, counted, rfl, _⟩ := read
      exact { bounded with nanosecond := nanoseconds?_range counted }
    · obtain ⟨rfl, _⟩ := Prod.mk.injEq .. ▸ Option.some.inj read
      exact bounded
  case mark =>
    obtain ⟨_, _, rfl, _⟩ := read
    exact bounded
  case gap =>
    obtain ⟨rfl, _⟩ := Prod.mk.injEq .. ▸ Option.some.inj read
    exact bounded

theorem readItems_bounded {items : List Item} (bounded : fields.Bounded)
    (read : readItems fields text items = some filled) : filled.Bounded := by
  induction items generalizing fields text with
  | nil =>
      rw [readItems] at read
      split at read
      · exact Option.some.inj read ▸ bounded
      · cases read
  | cons item items ih =>
      rw [readItems, Option.bind_eq_some_iff] at read
      obtain ⟨⟨after, behind⟩, isRead, readRest⟩ := read
      exact ih (Item.read_bounded bounded isRead) readRest

theorem Fields.Bounded.onClock {kind : DateTimeKind} (bounded : fields.Bounded)
    (made : fields.moment? kind = some moment) : moment.OnClock := by
  obtain ⟨hour, minute, second, nanosecond⟩ := bounded
  unfold Fields.moment? at made
  extract_lets date leap shown at made
  split at made
  · obtain rfl := Option.some.inj made
    refine ⟨⟨?_, ?_⟩, ?_⟩
    · dsimp only [shown]
      split <;> omega
    · dsimp only
      split <;> omega
    · dsimp only [secondOfMinute, shown]
      split <;> omega
  · cases made

theorem unspecified?_onClock (read : unspecified? text = some moment) : moment.OnClock := by
  obtain ⟨layout, _, isRead⟩ := List.exists_of_findSome?_eq_some read
  obtain ⟨fields, filled, made⟩ := Option.bind_eq_some_iff.mp isRead
  exact (readItems_bounded Fields.bounded_empty filled).onClock made

theorem offset?_minutes {offset : Int} (read : offset? text = some offset) : 60 ∣ offset := by
  unfold offset? at read
  split at read
  · cases read
    exact Int.dvd_zero 60
  · cases read
    exact Int.dvd_zero 60
  · simp only [Option.bind_eq_bind, Option.bind_eq_some_iff, Prod.exists] at read
    obtain ⟨hours, _, _, _, _, minutes, _, _, _, _, signed⟩ := read
    split at signed
    · cases signed
    · split at signed
      · cases signed
        omega
      · split at signed
        · cases signed
          omega
        · cases signed
  · cases read

theorem withOffset?_universal (read : withOffset? zone text = some moment) :
    ∃ time : DateTime, time.OnClock ∧ time.onClockOf zone = moment := by
  unfold withOffset? at read
  obtain ⟨⟨year, _⟩, -, read⟩ := Option.bind_eq_some_iff.mp read
  obtain ⟨_, -, read⟩ := Option.bind_eq_some_iff.mp read
  obtain ⟨⟨month, _⟩, -, read⟩ := Option.bind_eq_some_iff.mp read
  obtain ⟨_, -, read⟩ := Option.bind_eq_some_iff.mp read
  obtain ⟨⟨day, _⟩, -, read⟩ := Option.bind_eq_some_iff.mp read
  obtain ⟨_, -, read⟩ := Option.bind_eq_some_iff.mp read
  obtain ⟨_, -, read⟩ := Option.bind_eq_some_iff.mp read
  obtain ⟨⟨hour, _⟩, isHour, read⟩ := Option.bind_eq_some_iff.mp read
  obtain ⟨_, -, read⟩ := Option.bind_eq_some_iff.mp read
  obtain ⟨⟨minute, _⟩, isMinute, read⟩ := Option.bind_eq_some_iff.mp read
  obtain ⟨_, -, read⟩ := Option.bind_eq_some_iff.mp read
  obtain ⟨⟨second, _⟩, isSecond, read⟩ := Option.bind_eq_some_iff.mp read
  have bounded (nanosecond : Int) (fraction : 0 ≤ nanosecond ∧ nanosecond < 1000000000) :
      Fields.Bounded ⟨year, month, day, hour, minute, second, nanosecond⟩ :=
    ⟨fixedWidth?_range isHour, fixedWidth?_range isMinute, fixedWidth?_range isSecond, fraction⟩
  -- The fraction may be missing; whatever follows is the same either way.
  dsimp only at read
  split at read
  · obtain ⟨⟨nanosecond, _⟩, isFraction, read⟩ := Option.bind_eq_some_iff.mp read
    obtain ⟨offset, isOffset, read⟩ := Option.bind_eq_some_iff.mp read
    obtain ⟨shown, made, read⟩ := Option.bind_eq_some_iff.mp read
    have onClock := (bounded _ (nanoseconds?_range isFraction)).onClock made
    exact ⟨_, onClock.ahead (Int.dvd_neg.mpr (offset?_minutes isOffset)), Option.some.inj read⟩
  · obtain ⟨_, whole, read⟩ := Option.bind_eq_some_iff.mp read
    cases whole
    obtain ⟨offset, isOffset, read⟩ := Option.bind_eq_some_iff.mp read
    obtain ⟨shown, made, read⟩ := Option.bind_eq_some_iff.mp read
    have onClock := (bounded 0 (by decide)).onClock made
    exact ⟨_, onClock.ahead (Int.dvd_neg.mpr (offset?_minutes isOffset)), Option.some.inj read⟩

end Reading

theorem checked_eq_ok {result : DateTime} :
    checked moment = .ok result ↔ (0 ≤ moment.day ∧ moment.day < dayLimit) ∧ moment = result := by
  unfold checked
  split
  · next inside => simp only [inside, and_self, true_and, Except.ok.injEq]
  · next outside => simp only [outside, false_and, reduceCtorEq]

theorem ofText_spec {text : String} (read : ofText zone text = .ok moment) :
    moment.Timely ∧ moment.InDay ∧ (zone.KeepsMinutes → moment.OnClock) := by
  unfold ofText at read
  extract_lets trimmed at read
  split at read
  · next shown found =>
      obtain ⟨inside, rfl⟩ := checked_eq_ok.mp read
      have onClock : shown.InDay ∧ (zone.KeepsMinutes → shown.OnClock) := by
        rw [Option.orElse_eq_or, Option.or_eq_some_iff] at found
        rcases found with withOffset | ⟨_, without⟩
        · obtain ⟨time, onClock, rfl⟩ := Reading.withOffset?_universal withOffset
          exact ⟨onClock.toInDay.onClockOf, onClock.onClockOf⟩
        · have onClock := Reading.unspecified?_onClock without
          exact ⟨onClock.toInDay, fun _ => onClock⟩
      exact ⟨(timely_iff _).mpr ⟨inside.1, inside.2, onClock.1.second_lt⟩, onClock⟩
  · cases read

end DateTime

end Formula
