/-!
# Durations and instants

Both are counted in nanoseconds, an instant from the beginning of 1970 in coordinated universal
time.
-/

namespace TableCatalog

/-! ## Durations

An instant is moved by a signed number of milliseconds that fits into 64 bits at most, so a longer
span is cut off before it is added to one. The text of a span counts seconds, milliseconds,
microseconds or nanoseconds, whichever is the largest unit that fits once, with the remaining digits
as a decimal fraction.
-/

structure Duration where
  nanoseconds : Nat
  deriving DecidableEq, Repr

namespace Duration

def ofMillis (n : Nat) : Duration := ⟨n * 1000000⟩

def seconds (d : Duration) : Nat := d.nanoseconds / 1000000000

def subsecond (d : Duration) : Nat := d.nanoseconds % 1000000000

def millis (d : Duration) : Nat := d.nanoseconds / 1000000

def longestStep : Duration := ofMillis 9223372036854775807

/-- A span, cut off at the longest one by which an instant is moved. -/
def asStep (d : Duration) : Duration := ⟨min d.nanoseconds longestStep.nanoseconds⟩

/-- A number in decimal with at least `places` digits. -/
def padded (places n : Nat) : List Char :=
  let digits := Nat.toDigits 10 n
  List.replicate (places - digits.length) '0' ++ digits

/-- The digits of `n / 10 ^ places` behind the point, without trailing zeros. -/
def fraction (places n : Nat) : List Char :=
  ((padded places (n % Nat.pow 10 places)).reverse.dropWhile (· = '0')).reverse

/-- `n / 10 ^ places` in decimal. -/
def scaled (places n : Nat) : String :=
  toString (n / Nat.pow 10 places) ++
    match fraction places n with
    | [] => ""
    | digits => "." ++ String.ofList digits

def text (d : Duration) : String :=
  let n := d.nanoseconds
  if 1000000000 ≤ n then scaled 9 n ++ "s"
  else if 1000000 ≤ n then scaled 6 n ++ "ms"
  else if 1000 ≤ n then scaled 3 n ++ "µs"
  else scaled 0 n ++ "ns"

end Duration

/-! ## Instants

Only the instants that the calendar of years between -262143 and 262142 holds can be represented,
and a span can be added to an instant only as far as the last of them.

The text of an instant is its date in the Gregorian calendar, extended to all years, and its time of
day, with three, six or nine digits of a second where they are needed.
-/

structure Instant where
  /-- Nanoseconds since the beginning of 1970. -/
  nanoseconds : Int
  first_le : -8334601228800000 * 1000000 ≤ nanoseconds
  le_last : nanoseconds ≤ 8210266876799999 * 1000000 + 999999
  deriving DecidableEq

namespace Instant

def epoch : Instant := ⟨0, by decide, by decide⟩

/-- The instant that many nanoseconds after the beginning of 1970, if it can be represented. -/
def ofNanoseconds? (n : Int) : Option Instant :=
  if h : -8334601228800000 * 1000000 ≤ n ∧ n ≤ 8210266876799999 * 1000000 + 999999 then
    some ⟨n, h.1, h.2⟩
  else none

/-- The instant that many milliseconds after the beginning of 1970, if it can be represented. -/
def ofMillis? (n : Int) : Option Instant := ofNanoseconds? (n * 1000000)

def millis (i : Instant) : Int := i.nanoseconds.fdiv 1000000

/-- The instant a span later, if it can be represented. -/
def later? (i : Instant) (d : Duration) : Option Instant :=
  ofNanoseconds? (i.nanoseconds + d.nanoseconds)

instance : LE Instant := ⟨fun i j => i.nanoseconds ≤ j.nanoseconds⟩

instance : LT Instant := ⟨fun i j => i.nanoseconds < j.nanoseconds⟩

instance (i j : Instant) : Decidable (i ≤ j) :=
  inferInstanceAs (Decidable (i.nanoseconds ≤ j.nanoseconds))

instance (i j : Instant) : Decidable (i < j) :=
  inferInstanceAs (Decidable (i.nanoseconds < j.nanoseconds))

/-! ### Dates -/

structure Date where
  year : Int
  month : Nat
  day : Nat
  deriving DecidableEq, Repr

/-- The date of a day that is counted from the first day of 1970. Years are taken to begin in
March, so that a leap day is the last day of its year, and are counted in rounds of 400. -/
def Date.ofDay (day : Int) : Date :=
  let shifted := day + 719468
  let era := shifted.fdiv 146097
  let dayOfEra := (shifted.fmod 146097).toNat
  let yearOfEra := (dayOfEra - dayOfEra / 1460 + dayOfEra / 36524 - dayOfEra / 146096) / 365
  let dayOfYear := dayOfEra - (365 * yearOfEra + yearOfEra / 4 - yearOfEra / 100)
  let march := (5 * dayOfYear + 2) / 153
  let month := if march < 10 then march + 3 else march - 9
  { year := yearOfEra + era * 400 + if month ≤ 2 then 1 else 0
    month
    day := dayOfYear - (153 * march + 2) / 5 + 1 }

def twoDigits (n : Nat) : String := String.ofList (Duration.padded 2 n)

/-- A year with at least four digits, and with a sign outside of the years 0 to 9999. -/
def yearText (year : Int) : String :=
  let digits := String.ofList (Duration.padded 4 year.natAbs)
  if 0 ≤ year ∧ year ≤ 9999 then digits else (if year < 0 then "-" else "+") ++ digits

def Date.text (d : Date) : String :=
  yearText d.year ++ "-" ++ twoDigits d.month ++ "-" ++ twoDigits d.day

def fractionText (nanoseconds : Nat) : String :=
  if nanoseconds = 0 then ""
  else
    let places := if nanoseconds % 1000000 = 0 then 3 else if nanoseconds % 1000 = 0 then 6 else 9
    "." ++ String.ofList (Duration.padded places (nanoseconds / Nat.pow 10 (9 - places)))

def date (i : Instant) : Date := Date.ofDay (i.nanoseconds.fdiv 86400000000000)

def timeText (i : Instant) : String :=
  let n := (i.nanoseconds.fmod 86400000000000).toNat
  let seconds := n / 1000000000
  twoDigits (seconds / 3600) ++ ":" ++ twoDigits (seconds / 60 % 60) ++ ":" ++
    twoDigits (seconds % 60) ++ fractionText (n % 1000000000)

def text (i : Instant) : String := i.date.text ++ " " ++ i.timeText ++ " UTC"

/-- The text of an instant without blanks. -/
def compactText (i : Instant) : String := i.date.text ++ "T" ++ i.timeText ++ "Z"

end Instant

end TableCatalog
