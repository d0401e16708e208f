/-!
Days of the calendar, and moments of a day with or without an offset from universal time. A day or a
moment is made from its numbers if there is such a one.
-/

namespace TopicPlan.Data

structure Date where
  year : Nat
  month : Nat
  day : Nat
deriving DecidableEq, Repr

structure Clock where
  hour : Nat
  minute : Nat
  second : Nat
  microsecond : Nat
deriving DecidableEq, Repr

/-- A moment of a day; the offset, in minutes, is known or not. -/
structure Moment where
  date : Date
  clock : Clock
  offset : Option Int
deriving DecidableEq, Repr

/-- A span of time in minutes, by its days, which may be negative, and the seconds after them. -/
def spanText (minutes : Int) : String :=
  let days := minutes.fdiv 1440
  let seconds := 60 * minutes.fmod 1440
  let parts := (if days = 0 then [] else [s!"days={days}"]) ++
    (if seconds = 0 then [] else [s!"seconds={seconds}"])
  "datetime.timedelta(" ++ (if parts.isEmpty then "0" else ", ".intercalate parts) ++ ")"

inductive CalendarFault where
  | year
  | month
  | day
  | hour
  | minute
  | second
  | offset (minutes : Int)
deriving DecidableEq, Repr

def CalendarFault.message : CalendarFault → String
  | .year => "year 0 is out of range"
  | .month => "month must be in 1..12"
  | .day => "day is out of range for month"
  | .hour => "hour must be in 0..23"
  | .minute => "minute must be in 0..59"
  | .second => "second must be in 0..59"
  | .offset minutes =>
    "offset must be a timedelta strictly between -timedelta(hours=24) and timedelta(hours=24), " ++
      s!"not {spanText minutes}."

def isLeapYear (year : Nat) : Bool :=
  year % 4 == 0 && (year % 100 != 0 || year % 400 == 0)

def monthLength (year month : Nat) : Nat :=
  if month == 2 then if isLeapYear year then 29 else 28
  else if [4, 6, 9, 11].contains month then 30 else 31

namespace Date

def ofNumbers (year month day : Nat) : Except CalendarFault Date :=
  if year < 1 then .error .year
  else if month < 1 ∨ 12 < month then .error .month
  else if day < 1 ∨ monthLength year month < day then .error .day
  else .ok ⟨year, month, day⟩

/-- The number of days from the first day of all up to and with a day. -/
def ordinal (date : Date) : Nat :=
  let before := date.year - 1
  let months := (List.range (date.month - 1)).foldl
    (fun days i => days + monthLength date.year (i + 1)) 0
  365 * before + before / 4 - before / 100 + before / 400 + months + date.day

def text (date : Date) : String := s!"datetime.date({date.year}, {date.month}, {date.day})"

end Date

namespace Moment

/-- Offsets are less than a day. -/
def isOffset (minutes : Int) : Bool := minutes.natAbs < 1440

/-- The moment with the given numbers. The offset is looked at first. -/
def ofNumbers (year month day : Nat) (clock : Clock) (offset : Option Int) :
    Except CalendarFault Moment := do
  if let some minutes := offset then
    if !isOffset minutes then throw (.offset minutes)
  let date ← Date.ofNumbers year month day
  if 23 < clock.hour then throw .hour
  if 59 < clock.minute then throw .minute
  if 59 < clock.second then throw .second
  return ⟨date, clock, offset⟩

/-- The microseconds from the beginning of the calendar, in universal time where the offset is
known. -/
def instant (moment : Moment) : Int :=
  let clock := moment.clock
  let minutes : Int := 1440 * moment.date.ordinal + 60 * clock.hour + clock.minute
  (60 * (minutes - moment.offset.getD 0) + clock.second) * 1000000 + clock.microsecond

/-- Two moments are the same if they are at one instant. With an offset and without, they cannot be
compared. -/
def isSame (a b : Moment) : Bool :=
  a.offset.isSome == b.offset.isSome && a.instant == b.instant

def offsetText (minutes : Int) : String :=
  if minutes = 0 then "datetime.timezone.utc" else s!"datetime.timezone({spanText minutes})"

/-- The numbers of a moment. Seconds and their fractions are left out where they are zero. -/
def text (moment : Moment) : String :=
  let date := moment.date
  let clock := moment.clock
  let numbers := [date.year, date.month, date.day, clock.hour, clock.minute] ++
    (if clock.microsecond ≠ 0 then [clock.second, clock.microsecond]
      else if clock.second ≠ 0 then [clock.second] else [])
  let parts := numbers.map (fun n => s!"{n}") ++
    (moment.offset.map fun minutes => "tzinfo=" ++ offsetText minutes).toList
  "datetime.datetime(" ++ ", ".intercalate parts ++ ")"

end Moment

end TopicPlan.Data
