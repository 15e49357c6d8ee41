/-
Module: AccessTrace.Toml.Document
Purpose: The lines of a TOML document put together into one table.
Main exports:
  Toml.Statement, Toml.Node, Toml.assign, Toml.openTable, Toml.appendTable, Toml.finish
-/
import AccessTrace.Toml.Value

namespace AccessTrace.Toml

/-!
A table comes into being in one of three ways, and what may still be added to
it depends on which.  A table under a *header* has been opened and cannot be
opened again.  A table that is only *implied*, because a header goes through
it, can be opened once.  A *dotted* table, which an assignment goes through,
can be added to by other assignments, but not opened.  An assignment can go
through dotted and implied tables and has to end in a dotted one.

An array of tables grows with every header in double brackets; whatever goes
through it goes to its last table.
-/

/-- One line of a document.  The names in front of the last one lead to the
table that it stands in. -/
inductive Statement where
  | header (parents : List String) (name : String)
  | arrayHeader (parents : List String) (name : String)
  | assignment (parents : List String) (name : String) (value : Value)

/-- How a table came into being. -/
inductive Origin where
  | header
  | implied
  | dotted
deriving DecidableEq

/-- What a name in an unfinished table stands for. -/
inductive Node where
  | value (value : Value)
  | table (origin : Origin) (children : List (String × Node))
  /-- An array of tables, the last one first. -/
  | tables (last : List (String × Node)) (earlier : List Node)

/-- What an unfinished table holds. -/
abbrev Children := List (String × Node)

/-- The children with another node under a name. -/
def setChild (children : Children) (name : String) (node : Node) : Children :=
  if children.any (·.1 == name) then
    children.map fun child => if child.1 == name then (name, node) else child
  else children ++ [(name, node)]

/-- Changes the table that names lead to, on the way of a header.  Tables that
are missing are implied. -/
def editBelow (edit : Children → Option Children) : List String → Children → Option Children
  | [], children => edit children
  | name :: names, children => do
    let node ← match children.lookup name with
      | none => pure (Node.table .implied (← editBelow edit names []))
      | some (.value _) => none
      | some (.table origin below) => pure (Node.table origin (← editBelow edit names below))
      | some (.tables last earlier) => pure (Node.tables (← editBelow edit names last) earlier)
    return setChild children name node

/-- Adds a name that must be new. -/
def addNew (name : String) (node : Node) (children : Children) : Option Children :=
  if (children.lookup name).isSome then none else some (setChild children name node)

/-- Assigns a value, from a table that is open for it.  The flag tells whether
assignments may end in the table.  Tables that are missing are dotted. -/
def assignBelow (name : String) (value : Value) (mayEnd : Bool) :
    List String → Children → Option Children
  | [], children => if mayEnd then addNew name (.value value) children else none
  | step :: steps, children => do
    let node ← match children.lookup step with
      | none => pure (Node.table .dotted (← assignBelow name value true steps []))
      | some (.value _) => none
      | some (.table .header _) => none
      | some (.table .implied below) =>
        pure (Node.table .implied (← assignBelow name value false steps below))
      | some (.table .dotted below) =>
        pure (Node.table .dotted (← assignBelow name value true steps below))
      | some (.tables last earlier) =>
        pure (Node.tables (← assignBelow name value false steps last) earlier)
    return setChild children step node

/-- Assigns a value in a table. -/
def assign (parents : List String) (name : String) (value : Value) (children : Children) :
    Option Children :=
  assignBelow name value true parents children

/-- Opens a table in the table it stands in.  One that was implied so far takes
its place behind all others. -/
def openTable (name : String) (children : Children) : Option Children :=
  match children.lookup name with
  | none => some (setChild children name (.table .header []))
  | some (.table .implied below) =>
    some (children.filter (·.1 != name) ++ [(name, .table .header below)])
  | some _ => none

/-- Adds a table to an array of tables. -/
def appendTable (name : String) (children : Children) : Option Children :=
  match children.lookup name with
  | none => some (setChild children name (.tables [] []))
  | some (.tables last earlier) =>
    some (setChild children name (.tables [] (.table .header last :: earlier)))
  | some _ => none

/-- An unfinished document: its tables, and the names that lead to the one that
assignments go to. -/
structure Draft where
  root : Children := []
  current : List String := []

/-- Adds a line to a document. -/
def Draft.add (draft : Draft) : Statement → Option Draft
  | .header parents name => do
    return { root := ← editBelow (openTable name) parents draft.root
             current := parents ++ [name] }
  | .arrayHeader parents name => do
    return { root := ← editBelow (appendTable name) parents draft.root
             current := parents ++ [name] }
  | .assignment parents name value => do
    return { draft with
      root := ← editBelow (assign parents name value) draft.current draft.root }

mutual

/-- The value of a node. -/
def Node.toValue : Node → Value
  | .value value => value
  | .table _ children => .table (finish children)
  | .tables last earlier => .array (finishAll earlier [.table (finish last)])

/-- The entries of a table that nothing more is added to. -/
def finish : List (String × Node) → Table
  | [] => []
  | (name, node) :: rest => (name, node.toValue) :: finish rest

/-- The values of the earlier tables of an array, the last one first, in front
of those that follow. -/
def finishAll : List Node → List Value → List Value
  | [], following => following
  | node :: earlier, following => finishAll earlier (node.toValue :: following)

end

end AccessTrace.Toml
