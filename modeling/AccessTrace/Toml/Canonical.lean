/-
Module: AccessTrace.Toml.Canonical
Purpose: Values apart from the way in which a document writes them.
Main exports:
  Toml.sortEntries, Toml.Value.canonical?
-/
import AccessTrace.Toml.Datetime
import AccessTrace.Toml.Value

namespace AccessTrace.Toml

/-!
A document may give the entries of a table in any order, and may spell a date
or a time as a table.  In the canonical form of a value the entries of every
table stand in the order of their keys, so that tables with the same entries
are the same value, and every date and time is a date or a time.

Which table spells a date or a time is decided by its first entry alone.  If
the key of that entry is the one set apart for the purpose, the entries behind
it do not count, and a value other than the text of a date or a time is a
fault.  Anywhere else the key is one like all others.
-/

/-- Puts an entry in front of the first one with a greater key. -/
def insertEntry (entry : String × Value) : Table → Table
  | [] => [entry]
  | first :: rest =>
    if entry.1 < first.1 then entry :: first :: rest else first :: insertEntry entry rest

/-- Entries in the order of their keys. -/
def sortEntries (entries : Table) : Table :=
  entries.foldr insertEntry []

/-- What a table gives for a date or a time, if it is meant to spell one. -/
def spelling? : Table → Option Value
  | (key, value) :: _ => if key = datetimeKey then some value else none
  | [] => none

/-- The date or the time that a value spells. -/
def spelled? : Value → Option Value
  | .string text => (datetime? text).map .datetime
  | _ => none

mutual

/-- The canonical form of a value.  A value that fails to spell a date or a
time has none. -/
def Value.canonical? : Value → Option Value
  | .array values => (canonicalValues? values).map .array
  | .table entries =>
    match spelling? entries with
    | some value => spelled? value
    | none => (canonicalEntries? entries).map fun entries => .table (sortEntries entries)
  | value => some value

/-- The canonical forms of several values. -/
def canonicalValues? : List Value → Option (List Value)
  | [] => some []
  | value :: values => do
    return (← value.canonical?) :: (← canonicalValues? values)

/-- Entries with the canonical forms of their values. -/
def canonicalEntries? : List (String × Value) → Option Table
  | [] => some []
  | (key, value) :: entries => do
    return (key, ← value.canonical?) :: (← canonicalEntries? entries)

end

end AccessTrace.Toml
