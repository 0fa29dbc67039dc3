import TableSearch.Text.Basic

/-!
# UTF-8

Bytes are read as text in UTF-8. Bytes that are no text are refused with the offset of the first
sequence that is none: one that is cut short, longer than it has to be, or no Unicode scalar value.
-/

namespace TableSearch.Text

/-- The six bits that a continuation byte carries. -/
def continuationBits? (byte : UInt8) : Option Nat :=
  if 0x80 ≤ byte ∧ byte < 0xC0 then some (byte.toNat - 0x80) else none

/-- The character of a code point that is large enough for the length of its sequence. -/
def scalar? (least code : Nat) : Option Char :=
  if least ≤ code ∧ code.isValidChar then some (Char.ofNat code) else none

/-- The character of a sequence of two bytes. -/
def twoBytes? (one two : UInt8) : Option Char := do
  if one < 0xC0 ∨ 0xE0 ≤ one then none
  let second ← continuationBits? two
  scalar? 0x80 ((one.toNat - 0xC0) * 64 + second)

/-- The character of a sequence of three bytes. -/
def threeBytes? (one two three : UInt8) : Option Char := do
  if one < 0xE0 ∨ 0xF0 ≤ one then none
  let second ← continuationBits? two
  let third ← continuationBits? three
  scalar? 0x800 (((one.toNat - 0xE0) * 64 + second) * 64 + third)

/-- The character of a sequence of four bytes. -/
def fourBytes? (one two three four : UInt8) : Option Char := do
  if one < 0xF0 ∨ 0xF8 ≤ one then none
  let second ← continuationBits? two
  let third ← continuationBits? three
  let fourth ← continuationBits? four
  scalar? 0x10000 ((((one.toNat - 0xF0) * 64 + second) * 64 + third) * 64 + fourth)

/-- The text of bytes that stand at an offset, or the offset of the first sequence that is none. -/
def ofUtf8From (offset : Nat) : List UInt8 → Except Nat Text
  | [] => .ok []
  | one :: rest =>
      if one < 0x80 then (Char.ofNat one.toNat :: ·) <$> ofUtf8From (offset + 1) rest
      else
        match rest with
        | [] => .error offset
        | two :: rest =>
            match twoBytes? one two with
            | some character => (character :: ·) <$> ofUtf8From (offset + 2) rest
            | none =>
                match rest with
                | [] => .error offset
                | three :: rest =>
                    match threeBytes? one two three with
                    | some character => (character :: ·) <$> ofUtf8From (offset + 3) rest
                    | none =>
                        match rest with
                        | [] => .error offset
                        | four :: rest =>
                            match fourBytes? one two three four with
                            | some character => (character :: ·) <$> ofUtf8From (offset + 4) rest
                            | none => .error offset

/-- The text of bytes, or the offset of the first sequence that is none. -/
def ofUtf8 (bytes : List UInt8) : Except Nat Text :=
  ofUtf8From 0 bytes

/-- The character that stands for bytes that are no text. -/
def replacement : Char := '\ufffd'

/-- The number of bytes at the front of bytes that could begin a sequence or are no part of one:
what is replaced as a whole where no sequence is. -/
def invalidLength (one : UInt8) (rest : List UInt8) : Nat :=
  let isContinuation := fun byte => (continuationBits? byte).isSome
  let isSecond := fun byte : UInt8 =>
    if one = 0xE0 then 0xA0 ≤ byte && byte < 0xC0
    else if one = 0xED then 0x80 ≤ byte && byte < 0xA0
    else if one = 0xF0 then 0x90 ≤ byte && byte < 0xC0
    else if one = 0xF4 then 0x80 ≤ byte && byte < 0x90
    else isContinuation byte
  let isLeadOfThree := 0xE0 ≤ one && one < 0xF0
  let isLeadOfFour := 0xF0 ≤ one && one < 0xF5
  match rest with
  | two :: three :: _ =>
      if (isLeadOfThree || isLeadOfFour) && isSecond two then
        if isLeadOfFour && isContinuation three then 3 else 2
      else 1
  | [two] => if (isLeadOfThree || isLeadOfFour) && isSecond two then 2 else 1
  | [] => 1

/-- The text of bytes, in which each run of bytes that is no text is replaced; `limit` bounds the
number of runs. -/
def replacingFrom : Nat → List UInt8 → Text
  | 0, _ => []
  | limit + 1, bytes =>
      match ofUtf8 bytes with
      | .ok text => text
      | .error valid =>
          let before := match ofUtf8 (bytes.take valid) with
            | .ok text => text
            | .error _ => []
          match bytes.drop valid with
          | [] => before
          | one :: rest =>
              before ++ [replacement] ++
                replacingFrom limit (rest.drop (invalidLength one rest - 1))

/-- The text of bytes, in which each run of bytes that is no text is replaced. -/
def ofUtf8Replacing (bytes : List UInt8) : Text :=
  replacingFrom (bytes.length + 1) bytes

/-- The number of bytes that a text takes. -/
def utf8Length (text : Text) : Nat :=
  text.foldl (fun length character => length + character.utf8Size) 0

end TableSearch.Text
