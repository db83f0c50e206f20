import MemoryFabric.Number.Literal

/-!
# Dates and times of a TOML document

A date, a time, or both with an optional offset from universal time.  A setting holds no date, so only the
text of one is kept: two digits a part, a capital letter between date and time, and no zeros behind the
last digit of a fraction.  A day that its month lacks is no date.
-/

namespace MemoryFabric.Toml

set_option autoImplicit false

/-- Whether a year has a day more in February. -/
def isLeapYear (year : Nat) : Bool := year % 4 = 0 && (year % 100 ≠ 0 || year % 400 = 0)

/-- The number of days of a month. -/
def daysOfMonth (year month : Nat) : Nat :=
  if month = 2 then if isLeapYear year then 29 else 28
  else if month = 4 ∨ month = 6 ∨ month = 9 ∨ month = 11 then 30
  else 31

/-- A number with zeros in front, so that it has at least the given number of digits. -/
def padded (length number : Nat) : String :=
  let digits := Nat.toDigits 10 number
  String.ofList (List.replicate (length - digits.length) '0' ++ digits)

/-- Read a number of exactly the given number of digits. -/
def readFixed? (length : Nat) (characters : List Char) : Option (Nat × List Char) := do
  let digits := characters.take length
  if digits.length < length then none
  else return (← Number.digits? 10 digits, characters.drop length)

/-- Read a number of two digits that is at most `greatest`. -/
def readPair? (greatest : Nat) (characters : List Char) : Option (Nat × List Char) :=
  (readFixed? 2 characters).filter fun (number, _) => number ≤ greatest

/-- The characters behind a given one. -/
def dropMark? (mark : Char) : List Char → Option (List Char)
  | character :: rest => if character = mark then some rest else none
  | [] => none

/-- Read a day: year, month and day of the month. -/
def readDay? (characters : List Char) : Option (String × List Char) := do
  let (year, rest) ← readFixed? 4 characters
  let (month, rest) ← readPair? 12 (← dropMark? '-' rest)
  let (day, rest) ← readPair? (daysOfMonth year month) (← dropMark? '-' rest)
  if month = 0 ∨ day = 0 then none
  else return (padded 4 year ++ "-" ++ padded 2 month ++ "-" ++ padded 2 day, rest)

/-- Read the fraction of a second, of which nine digits count. -/
def readFraction? (characters : List Char) : Option (String × List Char) :=
  match characters with
  | '.' :: rest =>
    let digits := rest.takeWhile Char.isDigit
    let counted := ((digits.take 9).reverse.dropWhile (· = '0')).reverse
    if digits.isEmpty then none
    else some (if counted.isEmpty then "" else "." ++ String.ofList counted, rest.drop digits.length)
  | rest => some ("", rest)

/-- Read a time of day; a minute may have a leap second. -/
def readTime? (characters : List Char) : Option (String × List Char) := do
  let (hour, rest) ← readPair? 23 characters
  let (minute, rest) ← readPair? 59 (← dropMark? ':' rest)
  let (second, rest) ← readPair? 60 (← dropMark? ':' rest)
  let (fraction, rest) ← readFraction? rest
  return (padded 2 hour ++ ":" ++ padded 2 minute ++ ":" ++ padded 2 second ++ fraction, rest)

/-- Read an offset from universal time; no offset at all reads as an empty text. -/
def readOffset? (characters : List Char) : Option (String × List Char) :=
  match characters with
  | [] => some ("", [])
  | mark :: rest =>
    if mark = 'Z' ∨ mark = 'z' then some ("Z", rest)
    else if mark = '+' ∨ mark = '-' then do
      let (hours, rest) ← readPair? 23 rest
      let (minutes, rest) ← readPair? 59 (← dropMark? ':' rest)
      let sign := if mark = '-' ∧ 0 < hours + minutes then "-" else "+"
      return (sign ++ padded 2 hours ++ ":" ++ padded 2 minutes, rest)
    else some ("", mark :: rest)

/-- Read a time with its offset, from behind a day and the mark between the two. -/
def readTimeOfDay? (characters : List Char) : Option (String × List Char) := do
  let (time, rest) ← readTime? characters
  let (offset, rest) ← readOffset? rest
  return ("T" ++ time ++ offset, rest)

/-- Read a day with the time on it, if one follows. -/
def readMoment? (characters : List Char) : Option (String × List Char) := do
  let (day, rest) ← readDay? characters
  match rest with
  | [] => return (day, [])
  | mark :: behind =>
    if mark = 'T' ∨ mark = 't' ∨ mark = ' ' then
      match readTimeOfDay? behind with
      | some (time, rest) => return (day ++ time, rest)
      | none => return (day, rest)
    else return (day, rest)

/-- Read a date, a time, or both. -/
def readDate? (characters : List Char) : Option (String × List Char) :=
  (readMoment? characters).or (readTime? characters)

end MemoryFabric.Toml
