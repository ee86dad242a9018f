import ShapeInference.Value.Basic
import ShapeInference.Yaml.Tag

/-!
# Dates and times

- `Yaml.Timestamp`: a date, with a time of day and a zone if they are given;
- `Yaml.Timestamp.read?`: the parts of a text that has the form of one;
- `Yaml.Timestamp.problem?`: the first part that is out of range;
- `Yaml.Timestamp.isSame`: whether two dates or times are the same one;
- `Yaml.Timestamp.value`: a date or time as a value.
-/

namespace ShapeInference

namespace Yaml

/-- A time of day; the zone is given by minutes east of the zero meridian. -/
structure TimeOfDay where
  hour : Nat
  minute : Nat
  second : Nat
  microsecond : Nat
  zone : Option Int
  deriving DecidableEq, Repr

/-- A date, with a time of day if there is one. -/
structure Timestamp where
  year : Nat
  month : Nat
  day : Nat
  time : Option TimeOfDay
  deriving DecidableEq, Repr

namespace Timestamp

/-- The form of a date, where a time may follow. -/
def form : Pattern :=
  Pattern.sequence [Form.four, .char '-', Form.oneOrTwo, .char '-', Form.oneOrTwo,
    .optional (.seq Form.between Form.time)]

/-- The number that digits at the beginning of a text write, and the rest. -/
def readNumber (t : Text) : Nat × Text :=
  let (digits, rest) := t.span CodePoint.isDigit
  (Text.digitsValue digits, rest)

/-- The minutes of a zone, which is a letter or begins with a sign. -/
def readZone : Text → Option Int
  | [] => none
  | c :: rest =>
    let (hours, afterHours) := readNumber rest
    let (minutes, _) := readNumber (afterHours.drop 1)
    let total := hours * 60 + minutes
    if c = 'Z' then some 0
    else if c = '+' then some total
    else if c = '-' then some (Int.negOfNat total)
    else none

/-- Microseconds of a fraction of a second: six digits, where missing ones are zeros. -/
def readFraction (t : Text) : Nat × Text :=
  if t.head? = some ('.' : CodePoint) then
    let (digits, rest) := t.tail.span CodePoint.isDigit
    (Text.digitsValue ((digits ++ List.replicate 6 ('0' : CodePoint)).take 6), rest)
  else (0, t)

/-- The time of day that a text writes. -/
def readTime (t : Text) : TimeOfDay :=
  let (hour, rest) := readNumber t
  let (minute, rest) := readNumber (rest.drop 1)
  let (second, rest) := readNumber (rest.drop 1)
  let (microsecond, rest) := readFraction rest
  ⟨hour, minute, second, microsecond,
    readZone (rest.dropWhile fun c => c = (' ' : CodePoint) || c = ('\t' : CodePoint))⟩

/-- The date or time that a text of their form writes. -/
def read? (t : Text) : Option Timestamp :=
  if Form.fits form t then
    let (year, rest) := readNumber t
    let (month, rest) := readNumber (rest.drop 1)
    let (day, rest) := readNumber (rest.drop 1)
    some ⟨year, month, day,
      if rest.any CodePoint.isDigit then some (readTime (rest.dropWhile fun c => !c.isDigit))
        else none⟩
  else none

/-- Whether a year has a day more than others. -/
def isLeap (year : Nat) : Bool :=
  year % 4 = 0 && (year % 100 ≠ 0 || year % 400 = 0)

/-- The number of days of a month. -/
def daysIn (year month : Nat) : Nat :=
  if month = 2 then (if isLeap year then 29 else 28)
  else if month = 4 || month = 6 || month = 9 || month = 11 then 30
  else 31

/-- An offset by its days and seconds, as it is shown. -/
def shownOffset (minutes : Int) : Text :=
  let days := Int.fdiv minutes 1440
  let seconds := Int.fmod minutes 1440 * 60
  let parts : List Text :=
    (if days = 0 then [] else [("days=" : Text) ++ Text.ofInt days])
      ++ (if seconds = 0 then [] else [("seconds=" : Text) ++ Text.ofInt seconds])
  ("datetime.timedelta(" : Text) ++ (if parts.isEmpty then ("0" : Text) else Text.join ", " parts)
    ++ (")" : Text)

/-- The first part that is out of range: the zone, then the date, then the time of day. -/
def problem? (s : Timestamp) : Option Text :=
  match s.time.bind (·.zone) with
  | some zone =>
    if zone.natAbs < 1440 then rest
    else
      some (("offset must be a timedelta strictly between -timedelta(hours=24) and " : Text)
        ++ ("timedelta(hours=24), not " : Text) ++ shownOffset zone ++ ("." : Text))
  | none => rest
where
  /-- The first part of the date and the time of day that is out of range. -/
  rest : Option Text :=
    if s.year = 0 then some "year 0 is out of range"
    else if s.month = 0 || 12 < s.month then some "month must be in 1..12"
    else if s.day = 0 || daysIn s.year s.month < s.day then some "day is out of range for month"
    else
      match s.time with
      | none => none
      | some t =>
        if 23 < t.hour then some "hour must be in 0..23"
        else if 59 < t.minute then some "minute must be in 0..59"
        else if 59 < t.second then some "second must be in 0..59"
        else none

/-- The number of days up to a date, from the first day of the first year on. -/
def dayNumber (s : Timestamp) : Nat :=
  let years := s.year - 1
  years * 365 + years / 4 - years / 100 + years / 400
    + (List.range (s.month - 1)).foldl (fun n k => n + daysIn s.year (k + 1)) 0 + s.day

/-- The microseconds up to a time of day on a date, as counted at the zero meridian. -/
def instant (s : Timestamp) (t : TimeOfDay) : Int :=
  let minutes : Int := (s.dayNumber * 24 + t.hour) * 60 + t.minute - t.zone.getD 0
  (minutes * 60 + t.second) * 1000000 + t.microsecond

/-- Whether two dates or times are the same one. With zones the instants count, and what has a zone
is never the same as what has none. -/
def isSame (s t : Timestamp) : Bool :=
  match s.time, t.time with
  | some a, some b =>
    match a.zone, b.zone with
    | some _, some _ => s.instant a = t.instant b
    | _, _ => s = t
  | _, _ => s = t

/-- A number with zeros before it, up to a width. -/
def padded (width n : Nat) : Text :=
  let t := Text.ofNat n
  List.replicate (width - t.length) ('0' : CodePoint) ++ t

/-- A date as it is written. -/
def writeDate (s : Timestamp) : Text :=
  padded 4 s.year ++ ("-" : Text) ++ padded 2 s.month ++ ("-" : Text) ++ padded 2 s.day

/-- A zone as it is written: a sign, hours and minutes. -/
def writeZone (minutes : Int) : Text :=
  (if minutes < 0 then ("-" : Text) else "+") ++ padded 2 (minutes.natAbs / 60) ++ (":" : Text)
    ++ padded 2 (minutes.natAbs % 60)

/-- A time of day as it is written. -/
def writeTime (t : TimeOfDay) : Text :=
  padded 2 t.hour ++ (":" : Text) ++ padded 2 t.minute ++ (":" : Text) ++ padded 2 t.second
    ++ (if t.microsecond = 0 then [] else ("." : Text) ++ padded 6 t.microsecond)
    ++ (t.zone.map writeZone).getD []

/-- A zone as it is shown. -/
def shownZone (minutes : Int) : Text :=
  if minutes = 0 then "datetime.timezone.utc"
  else ("datetime.timezone(" : Text) ++ shownOffset minutes ++ (")" : Text)

/-- The parts of a date as they are shown. -/
def shownDate (s : Timestamp) : List Text :=
  [Text.ofNat s.year, Text.ofNat s.month, Text.ofNat s.day]

/-- The parts of a time of day as they are shown: seconds are left out when they are zero. -/
def shownTime (t : TimeOfDay) : List Text :=
  [Text.ofNat t.hour, Text.ofNat t.minute]
    ++ (if t.second = 0 && t.microsecond = 0 then [] else [Text.ofNat t.second])
    ++ (if t.microsecond = 0 then [] else [Text.ofNat t.microsecond])
    ++ (t.zone.map fun zone => ("tzinfo=" : Text) ++ shownZone zone).toList

/-- The value of a class of dates or times. -/
def dated (className : Text) (shown : List Text) (spelled : Text) : Value :=
  .object ⟨"datetime", className, true⟩
    (some
      (("datetime." : Text) ++ className ++ ("(" : Text) ++ Text.join ", " shown ++ (")" : Text)))
    (some spelled) none

/-- A date or time as a value. -/
def value (s : Timestamp) : Value :=
  match s.time with
  | none => dated "date" (shownDate s) (writeDate s)
  | some t =>
    dated "datetime" (shownDate s ++ shownTime t) (writeDate s ++ (" " : Text) ++ writeTime t)

end Timestamp

end Yaml

end ShapeInference
