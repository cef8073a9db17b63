import StyleGuide.Number.Decimal

/-!
# Dates and times

A date, a time of day, or a date with a time and perhaps an offset. A value is only ever shown
again, so what is kept is its parts.

## Main definitions

* `Date`, `TimeOfDay`, `Offset`, `DateTime`: The parts.
* `DateTime.ofText?`: The value that a text spells.
* `DateTime.toText`: The text of a value in its usual form.
-/

namespace StyleGuide

namespace Toml

/-- A day of the calendar. -/
structure Date where
  year : Nat
  month : Nat
  day : Nat
  deriving DecidableEq, Repr

/-- A time of day. -/
structure TimeOfDay where
  hour : Nat
  minute : Nat
  second : Nat
  nanosecond : Nat
  deriving DecidableEq, Repr

/-- How far the numbers of a time may go. -/
structure TimeLimits where
  hour : Nat
  /-- Whether an offset may have these hours and minutes. -/
  offset : Nat → Nat → Bool

namespace TimeLimits

/-- The hours of a day, for an offset as well. -/
def clock : TimeLimits := ⟨23, fun hour minute => hour ≤ 23 && minute ≤ 59⟩

/-- One hour more, and an offset that is no more than a day all together. -/
def wide : TimeLimits := ⟨24, fun hour minute => hour * 60 + minute ≤ 24 * 60⟩

end TimeLimits

/-- The distance of a local time from the universal one. -/
inductive Offset where
  | universal
  | minutes (ahead : Int)
  deriving DecidableEq, Repr

/-- A date, a time of day, or both. Only both can have an offset. -/
inductive DateTime where
  | date (date : Date)
  | time (time : TimeOfDay)
  | both (date : Date) (time : TimeOfDay) (offset : Option Offset)
  deriving DecidableEq, Repr

/-- A number of exactly `n` digits at the front of a text. -/
def readDigits? (n : Nat) (text : Text) : Option (Nat × Text) :=
  let digits := text.take n
  if digits.length = n && digits.all Text.isDigit then some (Text.readNat 10 digits, text.drop n)
  else none

namespace Date

/-- Whether a year has a leap day. -/
def isLeapYear (year : Nat) : Bool := year % 4 = 0 && (year % 100 ≠ 0 || year % 400 = 0)

/-- The number of days of a month. -/
def monthLength (year month : Nat) : Nat :=
  if month = 2 then (if isLeapYear year then 29 else 28)
  else if month = 4 ∨ month = 6 ∨ month = 9 ∨ month = 11 then 30
  else 31

/-- A date at the front of a text. -/
def read? (text : Text) : Option (Date × Text) := do
  let (year, rest) ← readDigits? 4 text
  let rest ← Text.afterLead? "-" rest
  let (month, rest) ← readDigits? 2 rest
  let rest ← Text.afterLead? "-" rest
  let (day, rest) ← readDigits? 2 rest
  guard (1 ≤ month ∧ month ≤ 12 ∧ 1 ≤ day ∧ day ≤ monthLength year month)
  return (⟨year, month, day⟩, rest)

end Date

/-- The nanoseconds of a fraction of a second. Digits beyond the ninth do not count. -/
def nanoseconds (fraction : Text) : Nat :=
  let digits := fraction.take 9
  Text.readNat 10 digits * Nat.pow 10 (9 - digits.length)

namespace TimeOfDay

/-- A time of day at the front of a text. -/
def read? (limits : TimeLimits) (text : Text) : Option (TimeOfDay × Text) := do
  let (hour, rest) ← readDigits? 2 text
  let rest ← Text.afterLead? ":" rest
  let (minute, rest) ← readDigits? 2 rest
  let rest ← Text.afterLead? ":" rest
  let (second, rest) ← readDigits? 2 rest
  guard (hour ≤ limits.hour ∧ minute ≤ 59 ∧ second ≤ 60)
  match rest with
  | '.' :: rest =>
    let fraction := rest.takeWhile Text.isDigit
    guard !fraction.isEmpty
    return (⟨hour, minute, second, nanoseconds fraction⟩, rest.dropWhile Text.isDigit)
  | rest => return (⟨hour, minute, second, 0⟩, rest)

end TimeOfDay

namespace Offset

/-- An offset that is all of a text. -/
def ofText? (limits : TimeLimits) (text : Text) : Option Offset :=
  match text with
  | ['Z'] | ['z'] => some universal
  | sign :: rest => do
    guard (sign = '+' ∨ sign = '-')
    let (hour, rest) ← readDigits? 2 rest
    let rest ← Text.afterLead? ":" rest
    let (minute, rest) ← readDigits? 2 rest
    guard (limits.offset hour minute ∧ rest = [])
    let ahead : Int := hour * 60 + minute
    return minutes (if sign = '-' then -ahead else ahead)
  | [] => none

end Offset

namespace DateTime

/-- The value that a text spells: the whole text is used. Date and time are separated by `T` in
    either case, or by a space. -/
def ofText? (limits : TimeLimits) (text : Text) : Option DateTime :=
  match Date.read? text with
  | some (day, []) => some (.date day)
  | some (day, separator :: rest) => do
    guard (separator = 'T' ∨ separator = 't' ∨ separator = ' ')
    let (clock, rest) ← TimeOfDay.read? limits rest
    if rest.isEmpty then return .both day clock none
    else return .both day clock (some (← Offset.ofText? limits rest))
  | none => do
    let (clock, rest) ← TimeOfDay.read? limits text
    guard rest.isEmpty
    return .time clock

/-- A number in at least `width` digits. -/
def padded (width n : Nat) : Text :=
  let digits := Text.ofNat n
  List.replicate (width - digits.length) '0' ++ digits

/-- The text of a date. -/
def dateText (d : Date) : Text :=
  padded 4 d.year ++ "-" ++ padded 2 d.month ++ "-" ++ padded 2 d.day

/-- The text of a time of day. A fraction goes as far as its last digit that counts. -/
def timeText (t : TimeOfDay) : Text :=
  padded 2 t.hour ++ ":" ++ padded 2 t.minute ++ ":" ++ padded 2 t.second ++
    if t.nanosecond = 0 then []
    else '.' :: ((padded 9 t.nanosecond).reverse.dropWhile (· == '0')).reverse

/-- The text of an offset. -/
def offsetText : Offset → Text
  | .universal => "Z"
  | .minutes ahead =>
    (if ahead < 0 then '-' else '+') ::
      padded 2 (ahead.natAbs / 60) ++ ":" ++ padded 2 (ahead.natAbs % 60)

/-- The text of a value in its usual form. -/
def toText : DateTime → Text
  | .date d => dateText d
  | .time t => timeText t
  | .both d t offset =>
    dateText d ++ "T" ++ timeText t ++ match offset with
      | none => []
      | some offset => offsetText offset

end DateTime

end Toml

end StyleGuide
