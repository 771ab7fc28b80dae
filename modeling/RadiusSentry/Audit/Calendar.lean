import RadiusSentry.Text.Split

/-!
# Calendar

Days and times of the proleptic Gregorian calendar in UTC, counted from the
beginning of 1970, for the years -262143 to 262142. A leap second is a fraction
of a second past the last second of a minute.
-/

set_option autoImplicit false

namespace RadiusSentry

/-- A day of the calendar. -/
structure Date where
  year : Int
  month : Nat
  day : Nat
deriving DecidableEq, Repr

namespace Date

/-- The date of a day counted from the first of January 1970. Years are counted from
March on here, so that a leap day comes last in its year, and in cycles of 400 years. -/
def ofDayNumber (n : Int) : Date :=
  let shifted := n + 719468
  let cycle := shifted.fdiv 146097
  let dayOfCycle := (shifted.fmod 146097).toNat
  let yearOfCycle :=
    (dayOfCycle - dayOfCycle / 1460 + dayOfCycle / 36524 - dayOfCycle / 146096) / 365
  let dayOfYear := dayOfCycle - (365 * yearOfCycle + yearOfCycle / 4 - yearOfCycle / 100)
  let monthFromMarch := (5 * dayOfYear + 2) / 153
  let day := dayOfYear - (153 * monthFromMarch + 2) / 5 + 1
  let month := if monthFromMarch < 10 then monthFromMarch + 3 else monthFromMarch - 9
  let year := (yearOfCycle : Int) + cycle * 400 + (if month ≤ 2 then 1 else 0)
  ⟨year, month, day⟩

/-- At least four digits; a year before 0 or after 9999 has a sign. -/
def yearChars (year : Int) : List Char :=
  let digits := Text.padded 4 year.natAbs
  if year < 0 then '-' :: digits else if 9999 < year then '+' :: digits else digits

/-- Year, month and day with hyphens between them. -/
def toChars (d : Date) : List Char :=
  yearChars d.year ++ '-' :: Text.padded 2 d.month ++ '-' :: Text.padded 2 d.day

end Date

/-- A time of the calendar. -/
structure Moment where
  seconds : Int
  leap : Bool := false
deriving DecidableEq, Repr

namespace Moment

def dayLength : Int := 86400

def epoch : Moment := ⟨0, false⟩

def first : Int := -8334601228800

def last : Int := 8210266876799

/-- The time given in seconds and billionths of a second. A billion or more of them
are a leap second, which only the last second of a minute has. -/
def ofSeconds? (seconds : Int) (billionths : Nat) : Option Moment :=
  if seconds < first ∨ last < seconds then none
  else if billionths < 1000000000 then some ⟨seconds, false⟩
  else if billionths < 2000000000 ∧ seconds.fmod 60 = 59 then some ⟨seconds, true⟩
  else none

def date (m : Moment) : Date :=
  .ofDayNumber (m.seconds.fdiv dayLength)

/-- Date and time with a `T` between them, and a `Z` for UTC. -/
def toText (m : Moment) : String :=
  let second := (m.seconds.fmod dayLength).toNat
  String.ofList (m.date.toChars ++ 'T' :: Text.padded 2 (second / 3600)
    ++ ':' :: Text.padded 2 (second / 60 % 60)
    ++ ':' :: Text.padded 2 (second % 60 + if m.leap then 1 else 0) ++ ['Z'])

end Moment

end RadiusSentry
