/-
Module: AccessTrace.Json.Decoder
Purpose: JSON texts decoded as values of a given sort.
Main exports:
  Json.Decoder, Json.realBy, Json.choice, Json.Fields, Json.Fields.decode, Json.decode
-/
import AccessTrace.Json.Reading

namespace AccessTrace.Json

/-!
A record is given as an object, with its fields in any order, or as a list of
their values in the order of the fields.  An object may have members that
belong to no field; they are passed over.  No field may be given twice.  A
list may end early only in front of fields that have a default, and nothing
may stand in it behind the last field.

Each value is checked where it stands, so that the first complaint is the one
that comes first in the text.  Only when all members have passed is the record
built from them, and fields that are missing are found then.
-/

/-- A way to a value of a given sort. -/
abbrev Decoder (α : Type) := Reading → Except Fault α

/-- Refuses a value of another sort. -/
def Reading.refuse {α : Type} (reading : Reading) : Except Fault α :=
  .error reading.mismatch

/-- A truth value. -/
def boolean : Decoder Bool
  | .boolean value => .ok value
  | reading => reading.refuse

/-- A text. -/
def string : Decoder String
  | .string text => text.decode
  | reading => reading.refuse

/-- An integer without a sign, of 64 bits. -/
def word : Decoder UInt64
  | .number text => do
    match ← text.value with
    | .natural value => .ok value
    | _ => .error .mismatched
  | reading => reading.refuse

/-- An integer with a sign, of 64 bits. -/
def signed : Decoder Int64
  | .number text => do
    match ← text.value with
    | .natural value =>
      if value.toNat < 0x8000000000000000 then .ok (Int64.ofInt value.toNat) else .error .mismatched
    | .negative value => .ok value
    | .real _ => .error .mismatched
  | reading => reading.refuse

/-- A real, by what makes reals of the texts of numbers. -/
def realBy (read : NumberText → Except Fault Binary64) : Decoder Binary64
  | .number text => read text
  | reading => reading.refuse

/-- A value, or nothing where there is none. -/
def nullable {α : Type} (decode : Decoder α) : Decoder (Option α)
  | .null => .ok none
  | reading => (decode reading).map some

/-- The alternative with a name. -/
def alternative {α : Type} (names : List (String × α)) (name : Quoted) : Except Fault α := do
  match names.lookup (← name.decode) with
  | some value => .ok value
  | none => .error .mismatched

/-- One of several alternatives, by its name.  The name may also be the only key
of an object, with nothing for its value. -/
def choice {α : Type} (names : List (String × α)) : Decoder α
  | .string name => alternative names name
  | .object [] none => .error .malformed
  | .object [] (some fault) => .error fault
  | .object ((name, content) :: members) ending => do
    let value ← alternative names name
    match content with
    | .null => if members.isEmpty then (closed ending).map fun _ => value else .error .malformed
    | content => content.refuse
  | .missing fault => .error fault
  | _ => .error .malformed

/-- A field as it is looked for in a text. -/
structure FieldRule where
  name : String
  /-- Refuses what is no value of the field. -/
  check : Reading → Except Fault Unit
  /-- Whether a list may end in front of the field. -/
  hasDefault : Bool

/-- Values found for fields, by the names of the fields. -/
abbrev Found := List (String × Reading)

/-- The fields of a record, and how the record is built from what was found for
them. -/
structure Fields (α : Type) where
  rules : List FieldRule
  build : Found → Except Fault α

namespace Fields

/-- A single field, with an answer to its being missing. -/
def single {α : Type} (name : String) (decode : Decoder α) (hasDefault : Bool)
    (whenMissing : Except Fault α) : Fields α where
  rules := [{ name, check := fun reading => (decode reading).map fun _ => (), hasDefault }]
  build found :=
    match found.lookup name with
    | some reading => decode reading
    | none => whenMissing

/-- A field that has to be there. -/
def required {α : Type} (name : String) (decode : Decoder α) : Fields α :=
  single name decode false (.error .mismatched)

/-- A field with a default. -/
def withDefault {α : Type} (name : String) (decode : Decoder α) (default : α) : Fields α :=
  single name decode true (.ok default)

/-- A field that may be missing in an object, though not in a list. -/
def optional {α : Type} (name : String) (decode : Decoder α) : Fields (Option α) :=
  single name (nullable decode) false (.ok none)

instance : Functor Fields where
  map f fields := { rules := fields.rules, build := fun found => (fields.build found).map f }

instance : Seq Fields where
  seq functions arguments :=
    let arguments := arguments ()
    { rules := functions.rules ++ arguments.rules
      build := fun found => do return (← functions.build found) (← arguments.build found) }

/-- The values in the members of an object, beside those already found. -/
def findMembers (rules : List FieldRule) (found : Found) :
    List (Quoted × Reading) → Except Fault Found
  | [] => .ok found
  | (key, value) :: members => do
    let name ← key.decode
    match rules.find? (·.name == name) with
    | none => do
      value.sound
      findMembers rules found members
    | some rule =>
      if (found.lookup name).isSome then .error .mismatched
      else do
        rule.check value
        findMembers rules ((name, value) :: found) members

/-- The values in the items of a list. -/
def findItems (ending : Option Fault) : List FieldRule → List Reading → Except Fault Found
  | [], [] => (closed ending).map fun _ => []
  | [], _ :: _ => .error .malformed
  | rule :: rules, item :: items => do
    rule.check item
    return (rule.name, item) :: (← findItems ending rules items)
  | rules, [] => do
    closed ending
    if rules.all (·.hasDefault) then .ok [] else .error .mismatched

/-- A record with the given fields. -/
def decode {α : Type} (fields : Fields α) : Decoder α
  | .object members ending => do
    let found ← findMembers fields.rules [] members
    closed ending
    fields.build found
  | .array items ending => do
    fields.build (← findItems ending fields.rules items)
  | .keyless _ => .error .malformed
  | reading => reading.refuse

end Fields

/-- The value that a text stands for as a whole. -/
def decode {α : Type} (decoder : Decoder α) (text : String) : Except Fault α := do
  let (reading, rest) := readText text.toList
  let value ← decoder reading
  if (skipBlanks rest).isEmpty then .ok value else .error .malformed

end AccessTrace.Json
