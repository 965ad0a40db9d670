import UrlRewrite.Bindings
import UrlRewrite.Text.Decimal

/-!
# Moments

A moment in local time, as the server variables about time show it. All fields have a fixed number
of digits; a year outside 0 to 9999 carries a sign.
-/

namespace UrlRewrite

/-- A date and a time of day. -/
structure Moment where
  year : Int
  month : Nat
  day : Nat
  hour : Nat
  minute : Nat
  second : Nat
deriving DecidableEq, Repr

namespace Moment

/-- The number of days from the first of March of the year 0 to a date. Years begin with March here,
so that the leap day is the last of its year. -/
def dayNumber (year : Int) (month day : Nat) : Int :=
  let y := if month ≤ 2 then year - 1 else year
  let m := if month ≤ 2 then month + 9 else month - 3
  365 * y + y.fdiv 4 - y.fdiv 100 + y.fdiv 400 + (153 * m + 2) / 5 + (day - 1)

/-- The day of the week, with 0 for Sunday. -/
def weekday (m : Moment) : Nat := ((dayNumber m.year m.month m.day + 3).emod 7).toNat

/-- The year in four digits, with a sign if it needs one. -/
def yearText (year : Int) : Text :=
  if 0 ≤ year ∧ year ≤ 9999 then Text.padded 4 year.toNat
  else (if year < 0 then '-' else '+') :: Text.padded 4 year.natAbs

/-- The server variables about time. -/
def serverVariables (m : Moment) : List (ServerVariable × Text) :=
  let year := yearText m.year
  let two (n : Nat) := Text.padded 2 n
  [(.timeYear, year), (.timeMon, two m.month), (.timeDay, two m.day), (.timeHour, two m.hour),
    (.timeMin, two m.minute), (.timeSec, two m.second), (.timeWday, Text.ofNat m.weekday),
    (.time, year ++ two m.month ++ two m.day ++ two m.hour ++ two m.minute ++ two m.second)]

/-- A moment gives variables of time only. -/
theorem category_of_mem {m : Moment} {entry : ServerVariable × Text}
    (h : entry ∈ m.serverVariables) :
    entry.1.category = .time := by
  simp only [serverVariables, List.mem_cons, List.not_mem_nil, or_false] at h
  rcases h with rfl | rfl | rfl | rfl | rfl | rfl | rfl | rfl <;> rfl

end Moment

end UrlRewrite
