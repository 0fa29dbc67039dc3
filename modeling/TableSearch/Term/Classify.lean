import TableSearch.Term

/-!
# Reading a token as a term

A token in double quotes is a phrase. Any other token is read as a comparison if it looks like one,
else as a range if it looks like one, else as a word. A number in a token is the longest that leaves
something readable behind it: nothing, or a unit after optional white space.
-/

namespace TableSearch.Term

/-- The text between the double quotes that a token begins and ends with. -/
def unquote : Text → Option Text
  | '"' :: rest =>
      if rest.getLast? = some '"' then some rest.dropLast else none
  | _ => none

/-- The longest numeral at the start of a text for which `accept` takes the text behind it, with
what `accept` makes of that text. A numeral is digits, then groups of a dot or comma and digits,
then perhaps a last dot. -/
def longestNumeral {Result : Type} (accept : Text → Option Result) :
    Text → Option (Text × Result)
  | [] => none
  | digit :: rest =>
      if Text.isDigit digit then
        let longer := longestNumeral accept rest
        let grouped : Option (Text × Result) :=
          match rest with
          | [] => none
          | separator :: more =>
              if separator = '.' ∨ separator = ',' then
                (longestNumeral accept more).map fun found => (separator :: found.1, found.2)
              else none
        let dotted : Option (Text × Result) :=
          match rest with
          | '.' :: more => (accept more).map fun result => (['.'], result)
          | _ => none
        let alone : Option (Text × Result) := (accept rest).map fun result => ([], result)
        (longer.or (grouped.or (dotted.or alone))).map fun found => (digit :: found.1, found.2)
      else none

/-- Whether a unit in a token can begin with a character. -/
def isUnitHead (character : Char) : Bool :=
  !Text.isDigit character && !Text.isBlank character && !(['<', '>', '=', '-'].contains character)

/-- What can stand behind a number: white space, and at the end perhaps a unit without white space.
The answer is the unit, if there is one. -/
def unitTail (text : Text) : Option (Option Text) :=
  match text.dropWhile Text.isBlank with
  | [] => some none
  | head :: rest =>
      if isUnitHead head && rest.all (!Text.isBlank ·) then some (some (head :: rest)) else none

/-- The comparison sign that a text begins with, and the text behind it. -/
def comparisonSign : Text → Option (Comparison × Text)
  | '>' :: '=' :: rest => some (.atLeast, rest)
  | '<' :: '=' :: rest => some (.atMost, rest)
  | '>' :: rest => some (.above, rest)
  | '<' :: rest => some (.below, rest)
  | '=' :: rest => some (.equal, rest)
  | _ => none

/-- The test and the unit of a comparison. -/
def comparison? (token : Text) : Option (Test × Option Text) := do
  let (comparison, operand) ← comparisonSign token
  let (numeral, unit) ← longestNumeral unitTail (operand.dropWhile Text.isBlank)
  let value ← Numeral.valueOf? numeral
  return (.compare comparison value, unit)

/-- The end of a range behind its first number: a hyphen, the second number and what follows it. -/
def rangeTail (text : Text) : Option (Text × Option Text) :=
  match text.dropWhile Text.isBlank with
  | '-' :: rest => longestNumeral unitTail (rest.dropWhile Text.isBlank)
  | _ => none

/-- The test and the unit of a range; its bounds may be written in either order. -/
def range? (token : Text) : Option (Test × Option Text) := do
  let (first, second, unit) ← longestNumeral rangeTail token
  let one ← Numeral.valueOf? first
  let other ← Numeral.valueOf? second
  return (if one ≤ other then .range one other else .range other one, unit)

/-- The term for a word or phrase, unless nothing of it is left in normal form. -/
def ofWord (spelling text : Text) : Option Term :=
  let word := Text.normalize text
  if word.isEmpty then none else some ⟨spelling, .word word, none, false⟩

/-- The term that a token stands for, if it asks for anything. -/
def classify (units : UnitTable) (token : Text) : Option Term :=
  let trimmed := Text.trimmed token
  match unquote trimmed with
  | some phrase => ofWord token phrase
  | none =>
      match (comparison? trimmed).or (range? trimmed) with
      | some (test, unit) => some ⟨token, test, unit.bind units.resolve, false⟩
      | none => ofWord token trimmed

end TableSearch.Term
