/-
Module: AccessTrace.Json.Value
Purpose: JSON values to be written.
Main exports:
  Json.Value, Json.Value.ofWord, Json.Value.ofOption
-/
import AccessTrace.Binary64.Basic

namespace AccessTrace.Json

/-!
The values that are written need no lists.  Members stand in the order in
which they are written.
-/

/-- A value to be written. -/
inductive Value where
  | null
  | boolean (value : Bool)
  | integer (value : Int)
  | real (value : Binary64)
  | string (text : String)
  | object (members : List (String × Value))

namespace Value

/-- A number without a sign. -/
def ofWord (value : UInt64) : Value :=
  .integer value.toNat

/-- A value that may be missing. -/
def ofOption {α : Type} (write : α → Value) : Option α → Value
  | none => .null
  | some value => write value

end Value
end AccessTrace.Json
