/-
Module: AccessTrace.Json.Fault
Purpose: The three ways in which a JSON text can be wrong.
Main exports:
  Json.Fault
-/
namespace AccessTrace.Json

/-- Why a text does not give the value that was asked for. -/
inductive Fault where
  /-- The text ends where more is needed. -/
  | ended
  /-- The text is not JSON. -/
  | malformed
  /-- The text holds a value, but one of another sort. -/
  | mismatched
deriving DecidableEq, Repr

end AccessTrace.Json
