import Choreo.Number.Fixed

/-!
Dates and times, as documents write them and as messages show them.

A written date has four, two and two digits; one with a time may leave out leading noughts of the
month and the day. A date is a day of the calendar, checked when it is read.
-/

namespace Choreo
namespace Yaml

structure Day where
  year : Nat
  month : Nat
  day : Nat
  deriving DecidableEq, Repr

structure Clock where
  hour : Nat
  minute : Nat
  second : Nat
  /-- Millionths of a second. -/
  micro : Nat
  /-- Minutes east of Greenwich, if that is said. -/
  offset : Option Int
  deriving DecidableEq, Repr

/-- Why a written date is none. -/
inductive CalendarFault where
  | year (n : Nat)
  | month | day | hour | minute | second
  /-- A zone a day or more away, in minutes. -/
  | offset (minutes : Int)
  deriving DecidableEq, Repr

/-! ## Shown texts -/

/-- A number with noughts in front. -/
def wide (width n : Nat) : String := String.ofList (Decimal.padded width (Decimal.digits n))

/-- A length of time: whole days, rounded down, and the seconds above them. -/
def spanExpression (minutes : Int) : String :=
  let days := minutes.fdiv 1440
  let seconds := (minutes - days * 1440) * 60
  let parts := (if days = 0 then [] else ["days=" ++ toString days]) ++
    (if seconds = 0 then [] else ["seconds=" ++ toString seconds])
  "datetime.timedelta(" ++ (if parts.isEmpty then "0" else ", ".intercalate parts) ++ ")"

def zoneExpression (minutes : Int) : String :=
  if minutes = 0 then "datetime.timezone.utc"
  else "datetime.timezone(" ++ spanExpression minutes ++ ")"

def CalendarFault.message : CalendarFault → String
  | year n => "year " ++ toString n ++ " is out of range"
  | month => "month must be in 1..12"
  | day => "day is out of range for month"
  | hour => "hour must be in 0..23"
  | minute => "minute must be in 0..59"
  | second => "second must be in 0..59"
  | offset minutes =>
    "offset must be a timedelta strictly between -timedelta(hours=24) and " ++
      "timedelta(hours=24), not " ++ spanExpression minutes ++ "."

namespace Day

def text (d : Day) : String := wide 4 d.year ++ "-" ++ wide 2 d.month ++ "-" ++ wide 2 d.day

def fields (d : Day) : List Nat := [d.year, d.month, d.day]

def expression (d : Day) : String :=
  "datetime.date(" ++ ", ".intercalate (d.fields.map toString) ++ ")"

def isLeap (year : Nat) : Bool := year % 4 == 0 && (year % 100 != 0 || year % 400 == 0)

def daysIn (year month : Nat) : Nat :=
  if month = 2 then (if isLeap year then 29 else 28)
  else if [4, 6, 9, 11].contains month then 30 else 31

/-- How many days have passed at its end since the calendar began. -/
def number (d : Day) : Nat :=
  let y := d.year - 1
  let months := (List.range (d.month - 1)).foldl (fun n m => n + daysIn d.year (m + 1)) 0
  y * 365 + y / 4 - y / 100 + y / 400 + months + d.day

def check (d : Day) : Except CalendarFault Unit :=
  if d.year = 0 then .error (.year d.year)
  else if d.month = 0 ∨ 12 < d.month then .error .month
  else if d.day = 0 ∨ daysIn d.year d.month < d.day then .error .day
  else .ok ()

end Day

namespace Clock

def zoneText (minutes : Int) : String :=
  (if minutes < 0 then "-" else "+") ++ wide 2 (minutes.natAbs / 60) ++ ":" ++
    wide 2 (minutes.natAbs % 60)

def text (c : Clock) : String :=
  wide 2 c.hour ++ ":" ++ wide 2 c.minute ++ ":" ++ wide 2 c.second ++
    (if c.micro = 0 then "" else "." ++ wide 6 c.micro) ++
    match c.offset with
    | some minutes => zoneText minutes
    | none => ""

/-- The numbers of a time. Seconds are left out when nothing follows the minute. -/
def fields (c : Clock) : List Nat :=
  [c.hour, c.minute] ++
    if c.micro ≠ 0 then [c.second, c.micro] else if c.second ≠ 0 then [c.second] else []

def expression (day : Day) (c : Clock) : String :=
  "datetime.datetime(" ++ ", ".intercalate ((day.fields ++ c.fields).map toString) ++
    (match c.offset with
    | some minutes => ", tzinfo=" ++ zoneExpression minutes
    | none => "") ++ ")"

/-- The minute of a time on a day, at Greenwich if a zone is said. -/
def minutes (c : Clock) (day : Day) : Int :=
  (day.number * 24 + c.hour : Nat) * 60 + c.minute - c.offset.getD 0

/-- Whether two times on their days are one moment. One with a zone is never one without. -/
def isSame (s : Day) (c : Clock) (t : Day) (d : Clock) : Bool :=
  c.offset.isSome == d.offset.isSome && c.minutes s == d.minutes t && c.second == d.second &&
    c.micro == d.micro

def checkZone (c : Clock) : Except CalendarFault Unit :=
  match c.offset with
  | some minutes => if minutes.natAbs < 1440 then .ok () else .error (.offset minutes)
  | none => .ok ()

def check (c : Clock) : Except CalendarFault Unit :=
  if 23 < c.hour then .error .hour
  else if 59 < c.minute then .error .minute
  else if 59 < c.second then .error .second
  else .ok ()

end Clock

/-! ## Written texts -/

/-- A date as it is written. -/
structure Timestamp where
  day : Day
  clock : Option Clock
  /-- Whether month and day are written with two digits each. -/
  isFull : Bool
  deriving DecidableEq, Repr

namespace Timestamp

/-- A number of at least and at most so many digits, how many it has, and what follows it. -/
def number? (least most : Nat) (cs : List Char) : Option (Nat × Nat × List Char) :=
  let ds := (cs.take most).takeWhile Char.isDigit
  if ds.length < least then none
  else some (ds.foldl (fun n d => n * 10 + (d.toNat - 48)) 0, ds.length, cs.drop ds.length)

/-- The text behind a character. -/
def after? (c : Char) : List Char → Option (List Char)
  | x :: rest => if x = c then some rest else none
  | [] => none

def isGap (c : Char) : Bool := c == ' ' || c == '\t'

/-- Nothing but perhaps a line end. -/
def isOver (cs : List Char) : Bool := cs.isEmpty || cs == ['\n']

/-- A zone at the end of a text, in minutes. -/
def zone? (cs : List Char) : Option Int :=
  match cs with
  | 'Z' :: rest => if isOver rest then some 0 else none
  | s :: rest =>
    if s = '+' ∨ s = '-' then do
      let (hours, _, rest) ← number? 1 2 rest
      let (minutes, rest) ← match rest with
        | ':' :: rest => (number? 2 2 rest).map fun (m, _, rest) => (m, rest)
        | rest => some (0, rest)
      let n : Int := hours * 60 + minutes
      if isOver rest then some (if s = '-' then -n else n) else none
    else none
  | [] => none

/-- The millionths that digits behind a point spell. -/
def micro (ds : List Char) : Nat :=
  let ds := ds.take 6
  ds.foldl (fun n d => n * 10 + (d.toNat - 48)) 0 * Nat.pow 10 (6 - ds.length)

def clock? (cs : List Char) : Option Clock := do
  let (hour, _, cs) ← number? 1 2 cs
  let (minute, _, cs) ← number? 2 2 (← after? ':' cs)
  let (second, _, cs) ← number? 2 2 (← after? ':' cs)
  let (places, cs) := match cs with
    | '.' :: rest => (rest.takeWhile Char.isDigit, rest.dropWhile Char.isDigit)
    | cs => ([], cs)
  let offset ← if isOver cs then some none else (zone? (cs.dropWhile isGap)).map some
  return ⟨hour, minute, second, micro places, offset⟩

def read? (cs : List Char) : Option Timestamp := do
  let (year, _, cs) ← number? 4 4 cs
  let (month, m, cs) ← number? 1 2 (← after? '-' cs)
  let (day, d, cs) ← number? 1 2 (← after? '-' cs)
  let make := fun clock => (⟨⟨year, month, day⟩, clock, m == 2 && d == 2⟩ : Timestamp)
  if isOver cs then some (make none)
  else
    match cs with
    | c :: rest =>
      if c = 'T' ∨ c = 't' then (clock? rest).map fun k => make (some k)
      else if isGap c then (clock? (rest.dropWhile isGap)).map fun k => make (some k)
      else none
    | [] => none

/-- Whether the text is a date without being said to be one. -/
def isPlain (t : Timestamp) : Bool := t.isFull || t.clock.isSome

/-- Checks a date: the zone, the day and the time, in this order. -/
def check (t : Timestamp) : Except CalendarFault Unit := do
  match t.clock with
  | some c => c.checkZone; t.day.check; c.check
  | none => t.day.check

end Timestamp
end Yaml
end Choreo
