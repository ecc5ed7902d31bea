import Blueprint.Number
import Blueprint.Text.Blank

/-!
# Instants

A clock shows a date and a time of day, to the nanosecond; a second may be the sixtieth, which
is a leap second. An instant is what a clock shows in UTC, and its day and its time of day exist:
readings that do not are no instants (`ClockReading.instant?`). It is written as RFC 3339 says,
with as many fraction digits as are needed in groups of three, and with a sign in front of years
that four digits do not hold.

Two readings exist. `Timestamp.readStrict?` takes that format only, with any offset from
UTC. `Timestamp.readLoose?` also takes shorter fields, blanks between them, years with a
sign, and the word `UTC` as an offset.
-/

namespace Blueprint

/-! ### The calendar -/

/-- A year with a twenty-ninth of February. -/
def isLeapYear (year : Int) : Bool :=
  year % 4 == 0 && (year % 100 != 0 || year % 400 == 0)

/-- The days of a month. -/
def daysInMonth (year : Int) (month : Nat) : Nat :=
  match month with
  | 2 => if isLeapYear year then 29 else 28
  | 4 | 6 | 9 | 11 => 30
  | _ => 31

/-- A day of the calendar. -/
structure Date where
  year : Int
  month : Nat
  day : Nat
deriving DecidableEq

/-- The day exists, and its year is one of those that are counted. -/
def Date.isValid (d : Date) : Bool :=
  -262143 ≤ d.year && d.year ≤ 262142 && 1 ≤ d.month && d.month ≤ 12 && 1 ≤ d.day &&
    d.day ≤ daysInMonth d.year d.month

/-- The day after. -/
def Date.next (d : Date) : Date :=
  if d.day < daysInMonth d.year d.month then { d with day := d.day + 1 }
  else if d.month < 12 then ⟨d.year, d.month + 1, 1⟩
  else ⟨d.year + 1, 1, 1⟩

/-- The day before. -/
def Date.previous (d : Date) : Date :=
  if 1 < d.day then { d with day := d.day - 1 }
  else if 1 < d.month then ⟨d.year, d.month - 1, daysInMonth d.year (d.month - 1)⟩
  else ⟨d.year - 1, 12, 31⟩

/-! ### Clocks -/

/-- **What a clock shows**: a date and a time of day, which need not exist. -/
structure ClockReading where
  date : Date
  hour : Nat
  minute : Nat
  second : Nat
  nanosecond : Nat
deriving DecidableEq

/-- The date exists, and the time of day too, a leap second included. -/
def ClockReading.isValid (r : ClockReading) : Bool :=
  r.date.isValid && r.hour < 24 && r.minute < 60 && r.second ≤ 60 && r.nanosecond < 1000000000

/-- **An instant**: what clocks show in UTC, where the date and the time of day exist. -/
structure Timestamp extends ClockReading where
  valid : toClockReading.isValid = true
deriving DecidableEq

/-- The instant at which clocks show this in UTC. -/
def ClockReading.instant? (r : ClockReading) : Option Timestamp :=
  if h : r.isValid = true then some ⟨r, h⟩ else none

namespace Timestamp

/-- The instant at which clocks show `r` where they are ahead of UTC by so many minutes, less
than a day. -/
def ofLocal? (r : ClockReading) (offset : Int) : Option Timestamp :=
  let minutes : Int := (r.hour * 60 + r.minute : Nat) - offset
  let date :=
    if minutes < 0 then r.date.previous else if 1440 ≤ minutes then r.date.next else r.date
  let minutes := (minutes % 1440).toNat
  let shifted : ClockReading := { r with date, hour := minutes / 60, minute := minutes % 60 }
  if r.isValid && offset.natAbs < 1440 then shifted.instant? else none

/-- The start of the year 1970, which clocks count from. -/
def epoch : Timestamp := ⟨⟨⟨1970, 1, 1⟩, 0, 0, 0, 0⟩, by decide⟩

/-- The instant so many milliseconds after that, in the years that are counted. -/
def ofMilliseconds? (n : Nat) : Option Timestamp :=
  let minutes := n / 60000
  let date := Nat.repeat Date.next (minutes / 1440) epoch.date
  (ClockReading.mk date (minutes / 60 % 24) (minutes % 60) (n / 1000 % 60)
    (n % 1000 * 1000000)).instant?

/-! ### Writing -/

/-- A number with zeros in front, of at least so many digits. -/
def padded (width n : Nat) : List Char :=
  let digits := Double.decimalDigits n
  List.replicate (width - digits.length) '0' ++ digits

/-- The text of a year: four digits, or a sign and at least four. -/
def yearText (year : Int) : List Char :=
  if 0 ≤ year ∧ year ≤ 9999 then padded 4 year.toNat
  else (if year < 0 then '-' else '+') :: padded 4 year.natAbs

/-- The fraction of a second: none, or three, six or nine digits, the fewest that lose
nothing. -/
def fractionText (nanosecond : Nat) : List Char :=
  if nanosecond = 0 then []
  else if nanosecond % 1000000 = 0 then '.' :: padded 3 (nanosecond / 1000000)
  else if nanosecond % 1000 = 0 then '.' :: padded 6 (nanosecond / 1000)
  else '.' :: padded 9 nanosecond

/-- **The text of an instant.** -/
def text (t : Timestamp) : String :=
  String.ofList (yearText t.date.year ++ '-' :: padded 2 t.date.month ++ '-' ::
    padded 2 t.date.day ++ 'T' :: padded 2 t.hour ++ ':' :: padded 2 t.minute ++ ':' ::
    padded 2 t.second ++ fractionText t.nanosecond ++ ['Z'])

/-! ### Reading -/

/-- From `least` to `most` digits, as many as there are. -/
def scanNumber? (least most : Nat) (cs : List Char) : Option (Nat × List Char) :=
  let digits := (cs.take most).takeWhile Char.isDigit
  if digits.length < least then none
  else some (Double.readDigits digits, cs.drop digits.length)

/-- One character. -/
def scanChar? (c : Char) : List Char → Option (List Char)
  | d :: cs => if d = c then some cs else none
  | [] => none

/-- A fraction of a second, if a point says that there is one; digits beyond the ninth
are passed over. -/
def scanFraction? : List Char → Option (Nat × List Char)
  | '.' :: cs =>
    let digits := (cs.take 9).takeWhile Char.isDigit
    if digits.isEmpty then none
    else
      some (Double.readDigits digits * tenTo (9 - digits.length),
        (cs.drop digits.length).dropWhile Char.isDigit)
  | cs => some (0, cs)

/-- The mark between date and time. -/
def scanTimeMark? : List Char → Option (List Char)
  | c :: cs => if c = 'T' ∨ c = 't' ∨ c = ' ' then some cs else none
  | [] => none

/-- The sign of an offset. -/
def scanOffsetSign? : List Char → Option (Bool × List Char)
  | c :: cs =>
    if c = '+' then some (false, cs)
    else if c = '-' ∨ c.toNat = 0x2212 then some (true, cs)
    else none
  | [] => none

/-- An offset from UTC in minutes, with what may stand between its hours and minutes. -/
def scanOffset? (between : List Char → Option (List Char)) (cs : List Char) :
    Option (Int × List Char) :=
  match cs with
  | 'Z' :: rest | 'z' :: rest => some (0, rest)
  | cs => do
    let (negative, cs) ← scanOffsetSign? cs
    let (hours, cs) ← scanNumber? 2 2 cs
    let (minutes, cs) ← scanNumber? 2 2 (← between cs)
    if 59 < minutes then none
    else
      let total : Int := (hours * 60 + minutes : Nat)
      return (if negative then -total else total, cs)

/-- **An instant in the written format**, with any offset from UTC. -/
def readStrict? (s : String) : Option Timestamp := do
  let (year, cs) ← scanNumber? 4 4 s.toList
  let (month, cs) ← scanNumber? 2 2 (← scanChar? '-' cs)
  let (day, cs) ← scanNumber? 2 2 (← scanChar? '-' cs)
  let (hour, cs) ← scanNumber? 2 2 (← scanTimeMark? cs)
  let (minute, cs) ← scanNumber? 2 2 (← scanChar? ':' cs)
  let (second, cs) ← scanNumber? 2 2 (← scanChar? ':' cs)
  let (nanosecond, cs) ← scanFraction? cs
  let (offset, cs) ← scanOffset? (scanChar? ':') cs
  if cs.isEmpty then ofLocal? ⟨⟨year, month, day⟩, hour, minute, second, nanosecond⟩ offset
  else none

/-- The text after blanks. -/
def skipBlanks (cs : List Char) : List Char := cs.dropWhile isBlank

/-- A year, which a sign allows to have more than four digits. -/
def scanYear? (cs : List Char) : Option (Int × List Char) :=
  match cs with
  | '-' :: cs => do
    let (n, cs) ← scanNumber? 1 cs.length cs
    return (-(n : Int), cs)
  | '+' :: cs => do
    let (n, cs) ← scanNumber? 1 cs.length cs
    return ((n : Int), cs)
  | cs => do
    let (n, cs) ← scanNumber? 1 4 cs
    return ((n : Int), cs)

/-- A field of one or two digits after blanks, behind its separator. -/
def scanLooseField? (separator : Char) (cs : List Char) : Option (Nat × List Char) := do
  scanNumber? 1 2 (skipBlanks (← scanChar? separator (skipBlanks cs)))

/-- The word for the offset zero. -/
def startsWithUtc : List Char → Bool
  | u :: t :: c :: _ =>
    (u == 'U' || u == 'u') && (t == 'T' || t == 't') && (c == 'C' || c == 'c')
  | _ => false

/-- An offset, by the word or by numbers with colons and blanks between them. -/
def scanLooseOffset? (cs : List Char) : Option (Int × List Char) :=
  if startsWithUtc cs then some (0, cs.drop 3)
  else scanOffset? (fun cs => some (cs.dropWhile fun c => c == ':' || isBlank c)) cs

/-- **An instant in a looser format.** -/
def readLoose? (s : String) : Option Timestamp := do
  let (year, cs) ← scanYear? (skipBlanks s.toList)
  let (month, cs) ← scanLooseField? '-' cs
  let (day, cs) ← scanLooseField? '-' cs
  let (hour, cs) ← scanNumber? 1 2 (skipBlanks (← scanTimeMark? cs))
  let (minute, cs) ← scanLooseField? ':' cs
  let (second, cs) ← scanLooseField? ':' cs
  let (nanosecond, cs) ← scanFraction? cs
  let (offset, cs) ← scanLooseOffset? (skipBlanks cs)
  if (skipBlanks cs).isEmpty then
    ofLocal? ⟨⟨year, month, day⟩, hour, minute, second, nanosecond⟩ offset
  else none

end Timestamp

end Blueprint
