/-
Module: AccessTrace.Record
Purpose: The records of a trace and the lines that stand for them.
Main exports:
  Kind, Kind.code, Kind.ofCode?, Record, Record.line, Record.parse
-/
import AccessTrace.Text.Blank
import AccessTrace.Text.Numeral

namespace AccessTrace

open AccessTrace.Text

/-!
A trace is a list of records in order.  A record is written as one line: the
code of its kind, a space and the address, both in decimal.  A line is read
more freely than it is written.  Blanks may stand anywhere around the two
fields, and each field may have a plus sign and leading zeros.
-/

/-- What a record does at its address. -/
inductive Kind where
  | read
  | write
deriving DecidableEq, Repr, Inhabited

namespace Kind

/-- The number that stands for the kind in a line. -/
def code : Kind → Nat
  | .read => 0
  | .write => 1

/-- The kind that a number stands for. -/
def ofCode? : Nat → Option Kind
  | 0 => some .read
  | 1 => some .write
  | _ => none

/-- The word for the kind. -/
def name : Kind → String
  | .read => "read"
  | .write => "write"

theorem ofCode?_code (kind : Kind) : ofCode? kind.code = some kind := by
  cases kind <;> rfl

end Kind

/-- One access: what is done, and the address it is done at. -/
structure Record where
  kind : Kind
  address : UInt64
deriving DecidableEq, Repr, Inhabited

/-- A line that stands for no record, kept whole. -/
structure MalformedLine where
  line : String
deriving DecidableEq, Repr

/-- The message about a malformed line. -/
def MalformedLine.message (error : MalformedLine) : String :=
  "malformed trace line: '" ++ error.line ++ "'"

namespace Record

/-- The line of a record, without the line feed that ends it. -/
def line (record : Record) : List Char :=
  Numeral.ofNat record.kind.code ++ ' ' :: Numeral.ofNat record.address.toNat

/-- The kind that the first field of a line stands for. -/
def readKind? (field : List Char) : Option Kind :=
  (Numeral.natural? field).bind Kind.ofCode?

/-- The address that the second field of a line stands for. -/
def readAddress? (field : List Char) : Option UInt64 :=
  (Numeral.natural? field).bind fun n =>
    if n < UInt64.size then some (UInt64.ofNat n) else none

/-- The record that a line stands for. -/
def read? (line : List Char) : Option Record :=
  match fields line with
  | [first, second] => do
    let kind ← readKind? first
    let address ← readAddress? second
    return { kind, address }
  | _ => none

/-- Reads a line; one that stands for no record is given back. -/
def parse (line : String) : Except MalformedLine Record :=
  match read? line.toList with
  | some record => .ok record
  | none => .error { line }

end Record
end AccessTrace
