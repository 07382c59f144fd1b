/-!
Days of the calendar and moments of a day, with their texts.
-/

set_option autoImplicit false

namespace UmlKotlin.Data

def padded (width n : Nat) : String :=
  let digits := toString n
  String.ofList (List.replicate (width - digits.length) '0') ++ digits

structure Date where
  year : Nat
  month : Nat
  day : Nat
  deriving DecidableEq, Repr

namespace Date

def isLeap (year : Nat) : Bool := year % 4 = 0 && (year % 100 ≠ 0 || year % 400 = 0)

def daysIn (year month : Nat) : Nat :=
  if month = 2 then (if isLeap year then 29 else 28)
  else if [4, 6, 9, 11].contains month then 30
  else 31

def of? (year month day : Nat) : Option Date :=
  if 1 ≤ year && 1 ≤ month && month ≤ 12 && 1 ≤ day && day ≤ daysIn year month then
    some ⟨year, month, day⟩
  else none

def toText (d : Date) : String :=
  padded 4 d.year ++ "-" ++ padded 2 d.month ++ "-" ++ padded 2 d.day

def toTextInside (d : Date) : String :=
  "datetime.date(" ++ ", ".intercalate ([d.year, d.month, d.day].map toString) ++ ")"

end Date

/-- A moment of a day; `offset` counts minutes east of Greenwich, where a zone is given. -/
structure Moment where
  date : Date
  hour : Nat
  minute : Nat
  second : Nat
  micro : Nat
  offset : Option Int
  deriving DecidableEq, Repr

namespace Moment

def of? (date : Date) (hour minute second micro : Nat) (offset : Option Int) : Option Moment :=
  if hour < 24 && minute < 60 && second < 60 && micro < 1000000 &&
      offset.all fun o => o.natAbs < 24 * 60 then
    some ⟨date, hour, minute, second, micro, offset⟩
  else none

def offsetText (offset : Int) : String :=
  (if offset < 0 then "-" else "+") ++ padded 2 (offset.natAbs / 60) ++ ":" ++
    padded 2 (offset.natAbs % 60)

def toText (m : Moment) : String :=
  m.date.toText ++ " " ++ padded 2 m.hour ++ ":" ++ padded 2 m.minute ++ ":" ++ padded 2 m.second ++
    (if m.micro = 0 then "" else "." ++ padded 6 m.micro) ++ (m.offset.map offsetText).getD ""

/-- A zone spelled out: a day less and seconds more where it lies to the west. -/
def zoneText (offset : Int) : String :=
  let seconds := toString ((offset * 60) % (24 * 60 * 60))
  if offset = 0 then "datetime.timezone.utc"
  else "datetime.timezone(datetime.timedelta(" ++ (if offset < 0 then "days=-1, " else "") ++
    "seconds=" ++ seconds ++ "))"

/-- A moment is spelled out inside a list or a record, without zeros at the end of its time. -/
def toTextInside (m : Moment) : String :=
  let time := [m.hour, m.minute] ++
    (if m.micro ≠ 0 then [m.second, m.micro] else if m.second ≠ 0 then [m.second] else [])
  let numbers := [m.date.year, m.date.month, m.date.day] ++ time
  "datetime.datetime(" ++ ", ".intercalate (numbers.map toString) ++
    ((m.offset.map fun o => ", tzinfo=" ++ zoneText o).getD "") ++ ")"

end Moment

end UmlKotlin.Data
