/-
Module: AccessTrace.Toml.Reader
Purpose: Reading from the front of a text, step by step.
Main exports:
  Toml.Reader, Reader.attempt, Reader.expect, Reader.takeWhile, Reader.repeatWhile
-/
namespace AccessTrace.Toml

/-!
A reader takes what it reads off the front of a text, or refuses.  A reader
that has refused leaves the text as it was, so that another can be tried.
-/

/-- What is read off the front of a text. -/
abbrev Reader := StateT (List Char) Option

namespace Reader

/-- Refuses. -/
def refuse {α : Type} : Reader α := fun _ => none

/-- Reads what may be missing. -/
def attempt {α : Type} (reader : Reader α) : Reader (Option α) := fun text =>
  match reader text with
  | some (value, rest) => some (some value, rest)
  | none => some (none, text)

/-- The next character, which stays where it is. -/
def peek : Reader (Option Char) := fun text => some (text.head?, text)

/-- Takes one character off. -/
def next : Reader Char
  | c :: rest => some (c, rest)
  | [] => none

/-- Takes a given character off. -/
def expect (c : Char) : Reader Unit
  | c' :: rest => if c' = c then some ((), rest) else none
  | [] => none

/-- Takes a given text off. -/
def expectAll (text : String) : Reader Unit :=
  text.toList.forM expect

/-- Takes the characters off that have a property. -/
def takeWhile (p : Char → Bool) : Reader (List Char) := fun text =>
  some (text.takeWhile p, text.dropWhile p)

/-- Takes at least one character off that has a property, and those after it. -/
def takeWhile1 (p : Char → Bool) : Reader (List Char) := do
  let taken ← takeWhile p
  if taken.isEmpty then refuse else return taken

/-- Reads with a reader again and again, as long as it takes something off. -/
def repeatFrom {α : Type} (reader : Reader α) (done : Array α) (text : List Char) :
    Array α × List Char :=
  match reader text with
  | none => (done, text)
  | some (value, rest) =>
    if _h : rest.length < text.length then repeatFrom reader (done.push value) rest
    else (done, text)
termination_by text.length

/-- All that a reader reads before it refuses. -/
def repeatWhile {α : Type} (reader : Reader α) : Reader (List α) := fun text =>
  let (values, rest) := repeatFrom reader #[] text
  some (values.toList, rest)

/-- Values with a separator between them, at least one. -/
def separated1 {α : Type} (reader : Reader α) (separator : Char) : Reader (List α) := do
  let first ← reader
  let others ← repeatWhile do
    expect separator
    reader
  return first :: others

end Reader
end AccessTrace.Toml
