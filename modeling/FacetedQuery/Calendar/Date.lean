import FacetedQuery.Calendar.Gregorian
import FacetedQuery.Decimal.Digits

/-!
# Dates

Days of the proleptic Gregorian calendar with an optional offset from universal time, as XML
Schema writes them.  A date stands for the midnight that begins it, and its distance in seconds
from the first of January of year 1 is bounded.  Two dates of which one has an offset are ordered
only if every offset for the other gives the same order.
-/

namespace FacetedQuery.Calendar

/-- The greatest distance in seconds from the first of January of year 1. -/
def greatestSecond : Nat :=
  (Nat.pow 2 127 - 1) / Nat.pow 10 18

/-- The greatest offset from universal time, in minutes. -/
def greatestOffset : Nat :=
  14 * 60

def inSecondRange (second : Int) : Bool :=
  second.natAbs ≤ greatestSecond

/-- The seconds from the first of January of year 1 to the midnight that begins a day. -/
def secondOf (year : Int) (month day : Nat) (offset : Option Int) : Int :=
  dayNumber year month day * 86400 - offset.getD 0 * 60

/-- Whether the parts make up a date. -/
def isDate (year : Int) (month day : Nat) (offset : Option Int) : Bool :=
  1 ≤ day && day ≤ daysInMonth year month && (offset.getD 0).natAbs ≤ greatestOffset &&
    inSecondRange (secondOf year month day offset)

/-- A date.  The offset from universal time is in minutes. -/
structure Date where
  year : Int
  month : Nat
  day : Nat
  offset : Option Int
  wellFormed : isDate year month day offset = true
deriving DecidableEq

namespace Date

/-- The date of the parts, if they make up one. -/
def ofParts? (year : Int) (month day : Nat) (offset : Option Int) : Option Date :=
  if wellFormed : isDate year month day offset = true then
    some ⟨year, month, day, offset, wellFormed⟩
  else none

def second (date : Date) : Int :=
  secondOf date.year date.month date.day date.offset

/-- The digits of a year, at least four, behind its sign. -/
def renderYear (year : Int) : List Char :=
  let row := Decimal.pad 4 (Decimal.digits year.natAbs)
  if year < 0 then '-' :: row else row

def renderTwo (number : Nat) : List Char :=
  Decimal.pad 2 (Decimal.digits number)

def renderOffset : Option Int → List Char
  | none => []
  | some offset =>
    if offset == 0 then ['Z']
    else
      (if offset < 0 then '-' else '+') ::
        (renderTwo (offset.natAbs / 60) ++ ':' :: renderTwo (offset.natAbs % 60))

/-- The characters of a date. -/
def renderChars (date : Date) : List Char :=
  renderYear date.year ++ '-' :: renderTwo date.month ++ '-' :: renderTwo date.day ++
    renderOffset date.offset

/-- The text of a date. -/
def render (date : Date) : String :=
  String.ofList date.renderChars

/-- Reads two digits. -/
def readTwo? : List Char → Option (Nat × List Char)
  | first :: second :: rest =>
    if first.isDigit && second.isDigit then some (Decimal.value [first, second], rest) else none
  | _ => none

/-- Reads hours and minutes with a colon between them. -/
def readClock? (text : List Char) : Option Nat := do
  let (hours, rest) ← readTwo? text
  match rest with
  | ':' :: minuteText =>
    let (minutes, rest) ← readTwo? minuteText
    if rest.isEmpty && minutes < 60 && hours * 60 + minutes ≤ greatestOffset then
      some (hours * 60 + minutes)
    else none
  | _ => none

/-- Reads what follows the day. -/
def readOffset? : List Char → Option (Option Int)
  | [] => some none
  | ['Z'] => some (some 0)
  | '+' :: rest => (readClock? rest).map fun minutes => some (minutes : Int)
  | '-' :: rest => (readClock? rest).map fun minutes => some (-(minutes : Int))
  | _ => none

/-- Reads the digits of a year: at least four, and no zero before more than four. -/
def readYearDigits? (text : List Char) : Option (Nat × List Char) :=
  let row := text.takeWhile Char.isDigit
  if row.length < 4 || (4 < row.length && row.head? == some '0') then none
  else some (Decimal.value row, text.dropWhile Char.isDigit)

/-- Reads a year with an optional minus sign. -/
def readYear? : List Char → Option (Int × List Char)
  | '-' :: rest => (readYearDigits? rest).map fun parts => (-(parts.1 : Int), parts.2)
  | text => (readYearDigits? text).map fun parts => ((parts.1 : Int), parts.2)

/-- Removes a hyphen. -/
def dropHyphen? : List Char → Option (List Char)
  | '-' :: rest => some rest
  | _ => none

/-- Reads a text as a date. -/
def readChars? (text : List Char) : Option Date := do
  let (year, afterYear) ← readYear? text
  let (month, afterMonth) ← readTwo? (← dropHyphen? afterYear)
  let (day, afterDay) ← readTwo? (← dropHyphen? afterMonth)
  let offset ← readOffset? afterDay
  ofParts? year month day offset

def read? (text : String) : Option Date :=
  readChars? text.toList

/-- The order of two instants. -/
def compareSeconds (left right : Int) : Ordering :=
  compare left right

/-- The order of an instant with a known offset and a midnight without one, which may be any
instant up to fourteen hours away. -/
def compareOpen? (known openMidnight : Int) : Option Ordering :=
  let latest := openMidnight + 14 * 3600
  let earliest := openMidnight - 14 * 3600
  if !(inSecondRange latest && inSecondRange earliest) then none
  else
    let order := compareSeconds known latest
    if order == compareSeconds known earliest then some order else none

/-- The order of two dates, if they have one. -/
def compare? (left right : Date) : Option Ordering :=
  match left.offset, right.offset with
  | some _, none => compareOpen? left.second right.second
  | none, some _ => (compareOpen? right.second left.second).map Ordering.swap
  | _, _ => some (compareSeconds left.second right.second)

/-- Whether a date certainly lies after another. -/
def isAfter (left right : Date) : Bool :=
  left.compare? right == some .gt

end Date

end FacetedQuery.Calendar
