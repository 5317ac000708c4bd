import LintRun.Machine.Utility.Filing

/-!
# Dates

A moment is a count of nanoseconds from the start of the year 1970.  A calendar date is read off
the count of days, in eras of 400 years.
-/

namespace LintRun.Utility

/-- A moment taken apart. -/
structure Moment where
  /-- Seconds from the start of the year 1970. -/
  seconds : Int
  nanoseconds : Nat
  year : Int
  month : Nat
  day : Nat
  hour : Nat
  minute : Nat
  second : Nat
  /-- The day of the week, Sunday first. -/
  weekday : Nat
  /-- The day of the year, from one. -/
  yearDay : Nat

namespace Moment

/-- The year, month and day of a count of days. -/
def calendar (days : Int) : Int × Nat × Nat :=
  let z := days + 719468
  let era := z.fdiv 146097
  let dayOfEra := (z - era * 146097).toNat
  let yearOfEra :=
    (dayOfEra - dayOfEra / 1460 + dayOfEra / 36524 - dayOfEra / 146096) / 365
  let dayOfYear := dayOfEra - (365 * yearOfEra + yearOfEra / 4 - yearOfEra / 100)
  let m := (5 * dayOfYear + 2) / 153
  let month := if m < 10 then m + 3 else m - 9
  let year : Int := yearOfEra + era * 400
  (if month ≤ 2 then year + 1 else year, month, dayOfYear - (153 * m + 2) / 5 + 1)

/-- The parts of a moment. -/
def ofNanoseconds (n : Int) : Moment :=
  let seconds := n.fdiv 1000000000
  let days := seconds.fdiv 86400
  let rest := (seconds - days * 86400).toNat
  let (year, month, day) := calendar days
  { seconds
    nanoseconds := (n - seconds * 1000000000).toNat
    year
    month
    day
    hour := rest / 3600
    minute := rest / 60 % 60
    second := rest % 60
    weekday := ((days + 4).emod 7).toNat
    yearDay := (days - daysBefore year.toNat 1 1).toNat + 1 }

/-- The names of the days of the week. -/
def dayNames : List String :=
  ["Sunday", "Monday", "Tuesday", "Wednesday", "Thursday", "Friday", "Saturday"]

/-- The names of the months. -/
def monthTitles : List String :=
  ["January", "February", "March", "April", "May", "June", "July", "August", "September",
    "October", "November", "December"]

/-- A number with something in front up to a width. -/
def filled (c : Char) (width n : Nat) : Chars :=
  let ds := (toString n).toList
  List.replicate (width - ds.length) c ++ ds

/-- The first letters of a name. -/
def short (name : String) : Chars := name.toList.take 3

/-- What a letter after a percent sign stands for. -/
def piece (m : Moment) (c : Char) : Chars :=
  let two (n : Nat) : Chars := filled '0' 2 n
  let day := dayNames.getD m.weekday ""
  let month := monthTitles.getD (m.month - 1) ""
  let hour12 := if m.hour % 12 = 0 then 12 else m.hour % 12
  match c with
  | 'Y' => (toString m.year).toList
  | 'C' => two (m.year.toNat / 100)
  | 'y' => two (m.year.toNat % 100)
  | 'm' => two m.month
  | 'd' => two m.day
  | 'e' => filled ' ' 2 m.day
  | 'H' => two m.hour
  | 'k' => filled ' ' 2 m.hour
  | 'I' => two hour12
  | 'l' => filled ' ' 2 hour12
  | 'M' => two m.minute
  | 'S' => two m.second
  | 'N' => filled '0' 9 m.nanoseconds
  | 's' => (toString m.seconds).toList
  | 'j' => filled '0' 3 m.yearDay
  | 'a' => short day
  | 'A' => day.toList
  | 'b' | 'h' => short month
  | 'B' => month.toList
  | 'p' => (if m.hour < 12 then "AM" else "PM").toList
  | 'P' => (if m.hour < 12 then "am" else "pm").toList
  | 'u' => (toString (if m.weekday = 0 then 7 else m.weekday)).toList
  | 'w' => (toString m.weekday).toList
  | 'Z' => "UTC".toList
  | 'z' => "+0000".toList
  | 'n' => ['\n']
  | 't' => ['\t']
  | '%' => ['%']
  | c => ['%', c]

/-- The letters that stand for a format of their own. -/
def compounds : List (Char × String) := [
  ('F', "%Y-%m-%d"), ('T', "%H:%M:%S"), ('X', "%H:%M:%S"), ('D', "%m/%d/%y"), ('x', "%m/%d/%y"),
  ('R', "%H:%M"), ('r', "%I:%M:%S %p"), ('c', "%a %b %e %H:%M:%S %Y")]

/-- A format without letters that stand for others. -/
def resolved : Chars → Chars
  | '%' :: c :: cs =>
    (match compounds.lookup c with
      | some format => format.toList
      | none => ['%', c]) ++ resolved cs
  | c :: cs => c :: resolved cs
  | [] => []

/-- A number without what fills it up. -/
def bare (text : Chars) : Chars :=
  if !text.all fun d => isDecimal d || d == ' ' then text
  else
    let rest := text.dropWhile fun d => d == '0' || d == ' '
    if rest.isEmpty then ['0'] else rest

/-- A moment in a format without letters that stand for others. -/
def shownPlain (m : Moment) : Chars → Chars
  | '%' :: '-' :: c :: cs => bare (m.piece c) ++ shownPlain m cs
  | '%' :: c :: cs => m.piece c ++ shownPlain m cs
  | c :: cs => c :: shownPlain m cs
  | [] => []

/-- A moment in a format. -/
def shown (m : Moment) (format : Chars) : Chars := m.shownPlain (resolved format)

end Moment

/-- Writes a moment. -/
def date : Utility := fun t => do
  let fs ← flagsOf t 1 ["d,date=", "f,file=", "I,iso-8601[", "R,rfc-email", "rfc-3339=",
    "r,reference=", "s,set=", "u,utc", "u,universal", "debug"]
  let now ← timeFlag t { fs with given := fs.given.filter fun g =>
    g.1 = ['d'] || g.1 = ['r'] }
  let format ← match fs.operands with
    | [] => pure (if fs.has "I" then "%Y-%m-%d" else if fs.has "R" then
        "%a, %d %b %Y %H:%M:%S %z" else "%a %b %e %H:%M:%S %Z %Y").toList
    | ['+' :: format] => pure format
    | [w] =>
      complain t ("invalid date ".toList ++ Quoting.plainly w)
      Step.exit 1
    | _ :: w :: _ => extraOperand t 1 w
  printLine t ((Moment.ofNanoseconds now).shown format)
  return 0

end LintRun.Utility
