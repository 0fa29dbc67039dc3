import TableSearch.Text.Basic

/-!
# Records of delimited files

A file is a row of records, each of them fields with a delimiter between them. A record ends at a
line feed, a carriage return or the end of the file; empty lines are no records. A field that begins
with a double quote goes on to the closing quote, whatever stands between, and a doubled quote in it
stands for a quote; what follows the closing quote belongs to the field, too.
-/

namespace TableSearch.Csv

/-- A place in a file, between two bytes. -/
structure Position where
  /-- The number of bytes before the place. -/
  byte : Nat
  /-- The number of the line, counted from one; only line feeds end a line. -/
  line : Nat
  /-- The number of records that end before the place. -/
  record : Nat
deriving DecidableEq

namespace Position

/-- The beginning of a file. -/
def start : Position :=
  ⟨0, 1, 0⟩

/-- The place behind a byte. -/
def advance (position : Position) (byte : UInt8) : Position :=
  ⟨position.byte + 1, if byte = 0x0A then position.line + 1 else position.line, position.record⟩

end Position

/-- The bytes of a field. -/
abbrev Field := List UInt8

/-- A record and where it was looked for: behind the end of the record before it. -/
structure Record where
  /-- Where the record was looked for. -/
  position : Position
  fields : List Field
deriving DecidableEq

/-- Where in a record a byte stands. -/
inductive Place where
  /-- Before the first field of a record. -/
  | outside
  /-- At the beginning of a field. -/
  | fieldStart
  | plain
  | quoted
  /-- Behind a quote that closes the quotes or is the first of a doubled one. -/
  | afterQuote
deriving DecidableEq

/-- A record that is being read. The field and the list of fields are held last to first. -/
structure Partial where
  place : Place
  /-- The bytes of the field so far. -/
  field : Field
  fields : List Field
deriving DecidableEq

namespace Partial

/-- Before a record. -/
def nothing : Partial :=
  ⟨.outside, [], []⟩

/-- The partial record with a byte added to its field. -/
def push (state : Partial) (byte : UInt8) (place : Place) : Partial :=
  ⟨place, byte :: state.field, state.fields⟩

/-- The partial record whose field has ended. -/
def endField (state : Partial) : Partial :=
  ⟨.fieldStart, [], state.field.reverse :: state.fields⟩

/-- The fields when the record ends. -/
def allFields (state : Partial) : List Field :=
  state.endField.fields.reverse

end Partial

/-- What a byte does to a partial record. -/
inductive Step where
  | next (state : Partial)
  | ended (fields : List Field)

/-- Whether a byte ends a record. -/
def isTerminator (byte : UInt8) : Bool :=
  byte = 0x0A || byte = 0x0D

/-- The double quote. -/
def quote : UInt8 := 0x22

/-- A byte outside quotes that is no quote with a meaning. -/
def plainStep (delimiter : UInt8) (state : Partial) (byte : UInt8) : Step :=
  if byte = delimiter then .next state.endField
  else if isTerminator byte then .ended state.allFields
  else .next (state.push byte .plain)

/-- What a byte does at its place. -/
def step (delimiter : UInt8) (state : Partial) (byte : UInt8) : Step :=
  match state.place with
  | .outside =>
      if isTerminator byte then .next state
      else if byte = quote then .next ⟨.quoted, [], []⟩
      else plainStep delimiter state byte
  | .fieldStart =>
      if byte = quote then .next { state with place := .quoted }
      else plainStep delimiter state byte
  | .plain => plainStep delimiter state byte
  | .quoted =>
      if byte = quote then .next { state with place := .afterQuote }
      else .next (state.push byte .quoted)
  | .afterQuote =>
      if byte = quote then .next (state.push byte .quoted)
      else plainStep delimiter state byte

/-- The records of the bytes at a place, where a partial record was looked for from `start` on. -/
def recordsFrom (delimiter : UInt8) (start here : Position) (state : Partial) :
    List UInt8 → List Record
  | [] => if state.place = .outside then [] else [⟨start, state.allFields⟩]
  | byte :: rest =>
      let here := here.advance byte
      match step delimiter state byte with
      | .next state => recordsFrom delimiter start here state rest
      | .ended fields =>
          let here := { here with record := here.record + 1 }
          ⟨start, fields⟩ :: recordsFrom delimiter here here .nothing rest

/-- The records of a file. A byte order mark at its beginning is skipped. -/
def records (delimiter : UInt8) : List UInt8 → List Record
  | 0xEF :: 0xBB :: 0xBF :: rest =>
      recordsFrom delimiter .start { Position.start with byte := 3 } .nothing rest
  | bytes => recordsFrom delimiter .start .start .nothing bytes

end TableSearch.Csv
