/-!
Time zones. What a local clock shows is universal time and an offset, and the offset may change in
the course of time: the clock is put forward and leaves times out, or it is put back and shows
times twice.
-/

namespace Formula

/-- The seconds that a clock is ahead of universal time, less than a day of them either way. -/
structure ZoneOffset where
  seconds : Int
  above : -86400 < seconds
  below : seconds < 86400
deriving DecidableEq

def ZoneOffset.none : ZoneOffset := ⟨0, by decide, by decide⟩

/-- All times are in seconds from the start of the calendar. -/
structure TimeZone where
  offsetAt : Int → ZoneOffset
  /-- The offset when the clock first shows a time, if it ever does. -/
  offsetShowing? : Int → Option ZoneOffset

def TimeZone.universal : TimeZone where
  offsetAt _ := .none
  offsetShowing? _ := some .none

end Formula
