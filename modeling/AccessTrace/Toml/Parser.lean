/-
Module: AccessTrace.Toml.Parser
Purpose: TOML documents read as tables.
Main exports:
  Toml.value, Toml.statement, Toml.parse
-/
import AccessTrace.Toml.Datetime
import AccessTrace.Toml.Document
import AccessTrace.Toml.Number

namespace AccessTrace.Toml

open Reader

/-!
A document is a list of lines: headers, assignments, comments and lines with
nothing on them.  Only an array may go over several lines; the entries of a
table between braces stand on one.  An array may have a comma after its last
value, such a table may not.
-/

/-- An array of values that one reader reads. -/
def array (value : Reader Value) : Reader Value := do
  expect '['
  let values ← attempt (separated1 (do spacing; let v ← value; spacing; return v) ',')
  if values.isSome then
    let _ ← attempt (expect ',')
  spacing
  expect ']'
  return .array (values.getD [])

/-- A key and the value assigned to it. -/
def assignment (value : Reader Value) : Reader (List String × String × Value) := do
  let (parents, name) ← key
  expect '='
  blanks
  return (parents, name, ← value)

/-- A table between braces. -/
def inlineTable (value : Reader Value) : Reader Value := do
  expect '\x7b'
  let assignments ← attempt (separated1 (do let a ← assignment value; blanks; return a) ',')
  blanks
  expect '\x7d'
  let children ← (assignments.getD []).foldlM
    (fun children (parents, name, value) => assign parents name value children) []
  return .table (finish children)

/-- A value that holds no others. -/
def scalar : Reader Value := do
  match ← peek with
  | some '"' | some '\'' => return .string (← string)
  | some 't' => do expectAll "true"; return .boolean true
  | some 'f' => do expectAll "false"; return .boolean false
  | _ =>
    (do return .datetime (← datetime))
    <|> (do return .float (← float))
    <|> (do return .integer (← integer))

/-- A value whose arrays and tables are nested no deeper than given. -/
def valueWithin : Nat → Reader Value
  | 0 => scalar
  | below + 1 => do
    match ← peek with
    | some '[' => array (valueWithin below)
    | some '\x7b' => inlineTable (valueWithin below)
    | _ => scalar

/-- A value. -/
def value : Reader Value :=
  valueWithin depthLimit

/-- The line of a header, in single or in double brackets. -/
def header : Reader Statement := do
  expect '['
  match ← peek with
  | some '[' =>
    expect '['
    let (parents, name) ← key
    expectAll "]]"
    lineTail
    return .arrayHeader parents name
  | _ =>
    let (parents, name) ← key
    expect ']'
    lineTail
    return .header parents name

/-- The rest of a line, if there is anything on it. -/
def statement : Reader (Option Statement) := do
  match ← peek with
  | some '#' => do lineTail; return none
  | some '\n' | some '\r' => do newline; return none
  | some '[' => return some (← header)
  | _ =>
    let (parents, name, value) ← assignment value
    lineTail
    return some (.assignment parents name value)

/-- A line of a document, added to what came before it. -/
def addLine (draft : Draft) (text : List Char) : Option (Draft × List Char) :=
  match statement text with
  | none => none
  | some (none, rest) => some (draft, rest)
  | some (some statement, rest) => (draft.add statement).map fun draft => (draft, rest)

/-- Reads lines to the end of a document.  If one of them cannot be read, the
text from it on is the answer. -/
def readLines (draft : Draft) (text : List Char) : Except (List Char) Draft :=
  match text.dropWhile isLineBlank with
  | [] => .ok draft
  | start =>
    match addLine draft start with
    | none => .error start
    | some (draft, rest) =>
      if _h : rest.length < text.length then readLines draft rest else .error start
termination_by text.length

/-- The number of the line that the rest of a text begins in. -/
def lineOf (text rest : List Char) : Nat :=
  1 + (text.count '\n' - rest.count '\n')

/-- A text without the mark of byte order that it may begin with. -/
def dropMark : List Char → List Char
  | '\uFEFF' :: text => text
  | text => text

/-- The table of a document, or the number of the first line that is wrong. -/
def parse (text : String) : Except Nat Table :=
  let start := dropMark text.toList
  match readLines {} start with
  | .ok draft => .ok (finish draft.root)
  | .error rest => .error (lineOf start rest)

end AccessTrace.Toml
