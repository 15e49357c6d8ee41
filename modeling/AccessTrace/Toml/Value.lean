/-
Module: AccessTrace.Toml.Value
Purpose: The values that a TOML document holds.
Main exports:
  Toml.Value, Toml.Table, Toml.datetimeKey
-/
import AccessTrace.Binary64.Basic

namespace AccessTrace.Toml

/-!
The entries of a table stand in the order in which a document gives them.  A
date or a time is kept as the text that it is written as.  It can be spelled as
a table too, by an entry whose key is set apart for the purpose.
-/

/-- A value. -/
inductive Value where
  | string (text : String)
  | integer (value : Int64)
  | float (value : Binary64)
  | boolean (value : Bool)
  | datetime (text : String)
  | array (values : List Value)
  | table (entries : List (String × Value))

/-- The entries of a table.  No two of them have the same key. -/
abbrev Table := List (String × Value)

/-- The key of the entry that spells a date or a time. -/
def datetimeKey : String := "$__toml_private_datetime"

end AccessTrace.Toml
