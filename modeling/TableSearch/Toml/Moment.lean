import TableSearch.Text.Basic

/-!
# Dates and times of TOML

A date, a time of day, or both with or without an offset from universal time. What is read is
written again in one form: a `T` before the time, a `Z` for universal time, and no zeros at the end
of a fraction of a second.
-/

namespace TableSearch.Toml

/-- The number that the first `count` characters of a text write, and the rest. -/
def readFixed (count : Nat) (text : Text) : Option (Nat × Text) :=
  let digits := text.take count
  if digits.length = count ∧ digits.all Char.isDigit then
    some (Text.decimalValue digits, text.drop count)
  else none

/-- The text behind a character. -/
def readMark (mark : Char) : Text → Option Text
  | character :: rest => if character = mark then some rest else none
  | [] => none

/-- A number with zeros before it. -/
def padded (width number : Nat) : Text :=
  let digits := Text.ofNat number
  List.replicate (width - digits.length) '0' ++ digits

/-- The number of days of a month. -/
def daysIn (year month : Nat) : Nat :=
  if month = 2 then
    if year % 4 = 0 ∧ (year % 100 ≠ 0 ∨ year % 400 = 0) then 29 else 28
  else if [4, 6, 9, 11].contains month then 30
  else 31

/-- A date, as it is written again. -/
def readDate (text : Text) : Option (Text × Text) := do
  let (year, rest) ← readFixed 4 text
  let rest ← readMark '-' rest
  let (month, rest) ← readFixed 2 rest
  let rest ← readMark '-' rest
  let (day, rest) ← readFixed 2 rest
  if 1 ≤ month ∧ month ≤ 12 ∧ 1 ≤ day ∧ day ≤ daysIn year month then
    return (padded 4 year ++ ['-'] ++ padded 2 month ++ ['-'] ++ padded 2 day, rest)
  else none

/-- A fraction of a second behind its point, as it is written again: to a billionth, without zeros
at its end. -/
def writtenFraction (digits : Text) : Text :=
  let kept := ((digits.take 9).reverse.dropWhile (· = '0')).reverse
  if kept.isEmpty then [] else '.' :: kept

/-- A time of day, as it is written again. -/
def readTime (text : Text) : Option (Text × Text) := do
  let (hour, rest) ← readFixed 2 text
  let rest ← readMark ':' rest
  let (minute, rest) ← readFixed 2 rest
  let rest ← readMark ':' rest
  let (second, rest) ← readFixed 2 rest
  if hour < 24 ∧ minute < 60 ∧ second ≤ 60 then
    let written := padded 2 hour ++ [':'] ++ padded 2 minute ++ [':'] ++ padded 2 second
    match rest with
    | '.' :: behind =>
        let digits := behind.takeWhile Char.isDigit
        if digits.isEmpty then none
        else return (written ++ writtenFraction digits, behind.dropWhile Char.isDigit)
    | _ => return (written, rest)
  else none

/-- An offset from universal time, as it is written again. -/
def offset? : Text → Option Text
  | ['Z'] => some ['Z']
  | ['z'] => some ['Z']
  | sign :: text => do
      if sign ≠ '+' ∧ sign ≠ '-' then none
      let (hour, rest) ← readFixed 2 text
      let rest ← readMark ':' rest
      let (minute, rest) ← readFixed 2 rest
      if rest.isEmpty ∧ hour < 24 ∧ minute < 60 then
        let sign := if hour = 0 ∧ minute = 0 then '+' else sign
        return [sign] ++ padded 2 hour ++ [':'] ++ padded 2 minute
      else none
  | [] => none

/-- The date, time or both that a text writes, as it is written again. -/
def moment? (text : Text) : Option Text :=
  match readDate text with
  | none => do
      let (time, rest) ← readTime text
      if rest.isEmpty then return time else none
  | some (date, []) => some date
  | some (date, mark :: behind) => do
      if mark ≠ 'T' ∧ mark ≠ 't' ∧ mark ≠ ' ' then none
      let (time, rest) ← readTime behind
      if rest.isEmpty then return date ++ ['T'] ++ time
      else
        let offset ← offset? rest
        return date ++ ['T'] ++ time ++ offset

end TableSearch.Toml
