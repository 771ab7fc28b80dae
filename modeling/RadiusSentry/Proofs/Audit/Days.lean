import RadiusSentry.Audit.Entry
import RadiusSentry.Proofs.Storage.Paths
import RadiusSentry.Proofs.Text.Digits

/-!
# Names of days

A day gets one date and a date one text, so no two days share a file. Days are recovered from
their dates (`Date.toDayNumber`) by counting centuries, four-year spans and years apart, and
dates from their texts by the hyphens. Main statements: `Date.toDayNumber_ofDayNumber`,
`Date.toChars_injective`, and `Audit.dayName_injective`, which adds the name of the times
outside the calendar.
-/

set_option autoImplicit false

namespace RadiusSentry

namespace Date

/-- The days from the first of January 1970 to a date, with years that begin in March. -/
def toDayNumber (d : Date) : Int :=
  let year := d.year - if d.month ≤ 2 then 1 else 0
  let yearOfCycle := (year % 400).toNat
  let monthFromMarch := if d.month ≤ 2 then d.month + 9 else d.month - 3
  let dayOfYear := (153 * monthFromMarch + 2) / 5 + d.day - 1
  let dayOfCycle := 365 * yearOfCycle + yearOfCycle / 4 - yearOfCycle / 100 + dayOfYear
  year / 400 * 146097 + dayOfCycle - 719468

/-- The centuries, four-year spans and years that a day of a cycle comes after. A span ends
with its leap day, and so does a cycle, whose last century is a day longer. -/
theorem exists_yearOfCycle {d : Nat} (h : d < 146097) :
    ∃ century span year day, century ≤ 3 ∧ span ≤ 24 ∧ year ≤ 3 ∧ day ≤ 365 ∧
      d = 36524 * century + 1461 * span + 365 * year + day ∧
      (d - d / 1460 + d / 36524 - d / 146096) / 365 = 100 * century + 4 * span + year := by
  obtain ⟨century, ofCentury, centuries, cut, short, quotient⟩ :
      ∃ century ofCentury, century ≤ 3 ∧ d = 36524 * century + ofCentury ∧ ofCentury ≤ 36524 ∧
        d / 36524 = century + d / 146096 :=
    ⟨d / 36524 - d / 146096, d - 36524 * (d / 36524 - d / 146096), by omega, by omega, by omega,
      by omega⟩
  obtain ⟨span, ofSpan, spans, cutCentury, shortSpan⟩ :
      ∃ span ofSpan, span ≤ 24 ∧ ofCentury = 1461 * span + ofSpan ∧ ofSpan ≤ 1460 :=
    ⟨ofCentury / 1461, ofCentury % 1461, by omega, by omega, by omega⟩
  -- the last day of a cycle is counted twice in the formula and taken back once
  rw [quotient]
  generalize d / 146096 = lastDay
  refine ⟨century, span, min (ofSpan / 365) 3, ofSpan - 365 * min (ofSpan / 365) 3,
    centuries, spans, by omega, by omega, by omega, ?_⟩
  subst cutCentury cut
  clear quotient short h
  omega

/-- A date names one day. -/
theorem toDayNumber_ofDayNumber (n : Int) : (ofDayNumber n).toDayNumber = n := by
  have positive : (0 : Int) ≤ 146097 := by decide
  simp only [ofDayNumber, Int.fdiv_eq_ediv_of_nonneg _ positive,
    Int.fmod_eq_emod_of_nonneg _ positive]
  have inCycle : ((n + 719468) % 146097).toNat < 146097 := by omega
  have divided :
      n = (n + 719468) / 146097 * 146097 + ((n + 719468) % 146097).toNat - 719468 := by omega
  generalize (n + 719468) / 146097 = cycle at *
  generalize ((n + 719468) % 146097).toNat = d at *
  subst divided
  obtain ⟨century, span, year, day, centuries, spans, years, days, rfl, yearOfCycle⟩ :=
    exists_yearOfCycle inCycle
  have leapYears : (100 * century + 4 * span + year) / 4 = 25 * century + span := by omega
  have hundreds : (100 * century + 4 * span + year) / 100 = century := by omega
  have dayOfYear : 36524 * century + 1461 * span + 365 * year + day -
      (365 * (100 * century + 4 * span + year) + (25 * century + span) - century) = day := by
    omega
  rw [yearOfCycle, leapYears, hundreds, dayOfYear]
  clear yearOfCycle inCycle
  generalize monthEq : (5 * day + 2) / 153 = month
  simp only [toDayNumber]
  by_cases before : month < 10
  · have late : ¬ month + 3 ≤ 2 := by omega
    rw [if_pos before, if_neg late, if_neg late]
    omega
  · have early : month - 9 ≤ 2 := by omega
    rw [if_neg before, if_pos early, if_pos early]
    omega

theorem ofDayNumber_injective {m n : Int} (h : ofDayNumber m = ofDayNumber n) : m = n := by
  rw [← toDayNumber_ofDayNumber m, h, toDayNumber_ofDayNumber]

theorem filter_yearChars (year : Int) :
    (yearChars year).filter Char.isDigit = Text.padded 4 year.natAbs := by
  have digits : (Text.padded 4 year.natAbs).filter Char.isDigit = Text.padded 4 year.natAbs :=
    List.filter_eq_self.mpr fun _ h => Text.isDigit_of_mem_padded h
  unfold yearChars
  split
  · rw [List.filter_cons_of_neg (by decide), digits]
  · split
    · rw [List.filter_cons_of_neg (by decide), digits]
    · exact digits

theorem hyphen_not_mem_padded (width n : Nat) : '-' ∉ Text.padded width n :=
  fun h => absurd (Text.isDigit_of_mem_padded h) (by decide)

theorem hyphen_mem_yearChars_iff (year : Int) : '-' ∈ yearChars year ↔ year < 0 := by
  have digits := hyphen_not_mem_padded 4 year.natAbs
  unfold yearChars
  split
  · rename_i negative
    exact iff_of_true List.mem_cons_self negative
  · rename_i negative
    split
    · refine iff_of_false ?_ negative
      rw [List.mem_cons, not_or]
      exact ⟨by decide, digits⟩
    · exact iff_of_false digits negative

theorem yearChars_injective {y z : Int} (h : yearChars y = yearChars z) : y = z := by
  have sign : y < 0 ↔ z < 0 := by
    rw [← hyphen_mem_yearChars_iff, ← hyphen_mem_yearChars_iff, h]
  have size : y.natAbs = z.natAbs := by
    apply Text.padded_injective 4
    rw [← filter_yearChars, ← filter_yearChars, h]
  omega

theorem isDigit_or_sign_of_mem_yearChars {year : Int} {c : Char} (h : c ∈ yearChars year) :
    c.isDigit = true ∨ c = '-' ∨ c = '+' := by
  unfold yearChars at h
  split at h
  · rcases List.mem_cons.mp h with rfl | h
    · exact .inr (.inl rfl)
    · exact .inl (Text.isDigit_of_mem_padded h)
  · split at h
    · rcases List.mem_cons.mp h with rfl | h
      · exact .inr (.inr rfl)
      · exact .inl (Text.isDigit_of_mem_padded h)
    · exact .inl (Text.isDigit_of_mem_padded h)

/-- The characters of a date are digits, hyphens and a sign. -/
theorem isDigit_or_sign_of_mem_toChars {d : Date} {c : Char} (h : c ∈ d.toChars) :
    c.isDigit = true ∨ c = '-' ∨ c = '+' := by
  simp only [toChars, List.mem_append, List.mem_cons] at h
  rcases h with (h | rfl | h) | rfl | h
  · exact isDigit_or_sign_of_mem_yearChars h
  · exact .inr (.inl rfl)
  · exact .inl (Text.isDigit_of_mem_padded h)
  · exact .inr (.inl rfl)
  · exact .inl (Text.isDigit_of_mem_padded h)

end Date

/-- What stands behind the last separator, and what before it, are told by the text. -/
theorem Text.append_cons_inj {separator : Char} {a b x y : List Char} (hx : separator ∉ x)
    (hy : separator ∉ y) (h : a ++ separator :: x = b ++ separator :: y) : a = b ∧ x = y := by
  have pieces := congrArg (Text.split separator) h
  rw [split_append_cons, split_append_cons, split_of_not_mem hx, split_of_not_mem hy] at pieces
  obtain ⟨front, back⟩ := List.append_inj' pieces rfl
  refine ⟨?_, List.singleton_inj.mp back⟩
  rw [← join_split separator a, front, join_split]

theorem Date.toChars_injective {d e : Date} (h : d.toChars = e.toChars) : d = e := by
  obtain ⟨front, day⟩ := Text.append_cons_inj (hyphen_not_mem_padded 2 d.day)
    (hyphen_not_mem_padded 2 e.day) h
  obtain ⟨year, month⟩ := Text.append_cons_inj (hyphen_not_mem_padded 2 d.month)
    (hyphen_not_mem_padded 2 e.month) front
  have sameYear := yearChars_injective year
  have sameMonth := Text.padded_injective 2 month
  have sameDay := Text.padded_injective 2 day
  cases d
  cases e
  simp_all only

namespace Audit

/-- The day an entry's time falls on, counted from 1970; none outside the calendar. -/
def Entry.dayNumber? (e : Entry) : Option Int :=
  if Moment.first ≤ e.timestamp.toInt ∧ e.timestamp.toInt ≤ Moment.last then
    some (e.timestamp.toInt.fdiv Moment.dayLength)
  else none

/-- The text of a day in the name of a file. -/
def dayName : Option Int → String
  | some n => String.ofList (Date.ofDayNumber n).toChars
  | none => "unknown"

/-- An entry goes to the file named after the day its time falls on. -/
theorem Entry.day_eq (e : Entry) : e.day = dayName e.dayNumber? := by
  unfold day Moment.ofSeconds? dayNumber?
  by_cases inside : Moment.first ≤ e.timestamp.toInt ∧ e.timestamp.toInt ≤ Moment.last
  · rw [if_pos inside, if_neg (by omega), if_pos (by decide)]
    rfl
  · rw [if_neg inside, if_pos (by omega)]
    rfl

theorem isAlphanum_or_sign_of_mem_dayName {d : Option Int} {c : Char}
    (h : c ∈ (dayName d).toList) : c.isAlphanum = true ∨ c = '-' ∨ c = '+' := by
  cases d with
  | none =>
    have letters : ("unknown".toList.all Char.isAlphanum) = true := rfl
    exact .inl (List.all_eq_true.mp letters c h)
  | some n =>
    rw [dayName, String.toList_ofList] at h
    refine (Date.isDigit_or_sign_of_mem_toChars h).imp_left fun digit => ?_
    rw [Char.isAlphanum, digit, Bool.or_true]

theorem dayName_ne_empty (d : Option Int) : (dayName d).toList ≠ [] := by
  cases d with
  | none => decide
  | some n => simp [dayName, Date.toChars]

/-- No two days have one name, and no day has that of the times outside the calendar. -/
theorem dayName_injective {d e : Option Int} (h : dayName d = dayName e) : d = e := by
  have letter : ∀ n, dayName (some n) ≠ dayName none := by
    intro n same
    have u : 'u' ∈ (dayName (some n)).toList := by
      rw [same]
      decide
    rw [dayName, String.toList_ofList] at u
    exact absurd (Date.isDigit_or_sign_of_mem_toChars u) (by decide)
  cases d with
  | none =>
    cases e with
    | none => rfl
    | some n => exact absurd h.symm (letter n)
  | some m =>
    cases e with
    | none => exact absurd h (letter m)
    | some n =>
      have same := congrArg String.toList h
      rw [dayName, dayName, String.toList_ofList, String.toList_ofList] at same
      rw [Date.ofDayNumber_injective (Date.toChars_injective same)]

end Audit

end RadiusSentry
