/-
Module: AccessTrace.Toml.Text
Purpose: Blanks, comments, strings and keys of TOML documents.
Main exports:
  Toml.blanks, Toml.lineEnd, Toml.string, Toml.key
-/
import AccessTrace.Text.Hexadecimal
import AccessTrace.Toml.Reader

namespace AccessTrace.Toml

open Reader AccessTrace.Text

/-!
A line ends in a line feed, with or without a carriage return before it; a
carriage return alone ends nothing and may not stand anywhere.  Control
characters other than the tab may not stand anywhere either.

A string of several lines drops a line break right after its opening quotes.
Up to two quotes may stand in front of its closing ones.  In the sort with
escapes, a backslash at the end of a line takes the break and all blanks and
breaks after it away.
-/

/-- The blanks inside a line. -/
def isLineBlank (c : Char) : Bool :=
  c = ' ' || c = '\t'

/-- The characters that may stand in a comment and, quotes and backslashes
apart, in a string. -/
def isPlain (c : Char) : Bool :=
  c = '\t' || (0x20 ≤ c.toNat && c.toNat != 0x7F)

/-- Blanks inside a line. -/
def blanks : Reader Unit := do
  let _ ← takeWhile isLineBlank

/-- The break between two lines. -/
def newline : Reader Unit
  | '\n' :: rest => some ((), rest)
  | '\r' :: '\n' :: rest => some ((), rest)
  | _ => none

/-- A comment up to the end of its line. -/
def comment : Reader Unit := do
  expect '#'
  let _ ← takeWhile isPlain

/-- The end of a line or of the document. -/
def lineEnd : Reader Unit
  | [] => some ((), [])
  | text => newline text

/-- What may follow at the end of a line. -/
def lineTail : Reader Unit := do
  blanks
  let _ ← attempt comment
  lineEnd

/-- Blanks, comments and breaks. -/
def spacing : Reader Unit := do
  let _ ← repeatWhile do
    match ← peek with
    | some ' ' | some '\t' => blanks
    | some '#' => do comment; newline
    | _ => newline

/-- The character that hexadecimal digits stand for. -/
def scalar? (digits : List Char) : Option Char := do
  let code ← Hexadecimal.natural? digits
  if code.isValidChar then some (Char.ofNat code) else none

/-- The character that one letter behind a backslash stands for. -/
def escaped? : Char → Option Char
  | 'b' => some '\x08'
  | 't' => some '\t'
  | 'n' => some '\n'
  | 'f' => some '\x0c'
  | 'r' => some '\r'
  | '"' => some '"'
  | '\\' => some '\\'
  | _ => none

/-- The rest of a string of one line with escapes, after `reversed`. -/
def basicFrom (reversed : List Char) : Reader String
  | '"' :: rest => some (String.ofList reversed.reverse, rest)
  | '\\' :: 'u' :: a :: b :: c :: d :: rest => do
    basicFrom ((← scalar? [a, b, c, d]) :: reversed) rest
  | '\\' :: 'U' :: a :: b :: c :: d :: e :: f :: g :: h :: rest => do
    basicFrom ((← scalar? [a, b, c, d, e, f, g, h]) :: reversed) rest
  | '\\' :: c :: rest => do
    basicFrom ((← escaped? c) :: reversed) rest
  | c :: rest => if isPlain c then basicFrom (c :: reversed) rest else none
  | [] => none

/-- Where a string of several lines stands with regard to a backslash at the
end of a line. -/
inductive Continuation where
  /-- No such backslash. -/
  | none
  /-- After it, before the break. -/
  | line
  /-- After the break. -/
  | nextLines
deriving DecidableEq

/-- The end of a string of several lines, after three of its quotes: of the
quotes behind them, two at most belong to the string. -/
def closeLong (quote : Char) (reversed : List Char) : Reader String
  | c :: d :: rest =>
    if c = quote && d = quote then
      some (String.ofList (quote :: quote :: reversed).reverse, rest)
    else if c = quote then some (String.ofList (quote :: reversed).reverse, d :: rest)
    else some (String.ofList reversed.reverse, c :: d :: rest)
  | [c] =>
    if c = quote then some (String.ofList (quote :: reversed).reverse, [])
    else some (String.ofList reversed.reverse, [c])
  | [] => some (String.ofList reversed.reverse, [])

/-- The rest of a string of several lines with escapes, after `reversed`. -/
def longBasicFrom (continuation : Continuation) (reversed : List Char) : Reader String
  | '\r' :: '\n' :: rest | '\n' :: rest =>
    match continuation with
    | .none => longBasicFrom .none ('\n' :: reversed) rest
    | _ => longBasicFrom .nextLines reversed rest
  | c :: rest =>
    if continuation ≠ .none && isLineBlank c then longBasicFrom continuation reversed rest
    else if continuation = .line then none
    else match c, rest with
      | '"', '"' :: '"' :: rest => closeLong '"' reversed rest
      | '\\', 'u' :: a :: b :: c :: d :: rest => do
        longBasicFrom .none ((← scalar? [a, b, c, d]) :: reversed) rest
      | '\\', 'U' :: a :: b :: c :: d :: e :: f :: g :: h :: rest => do
        longBasicFrom .none ((← scalar? [a, b, c, d, e, f, g, h]) :: reversed) rest
      | '\\', c :: rest =>
        match escaped? c with
        | some e => longBasicFrom .none (e :: reversed) rest
        | none =>
          if isLineBlank c then longBasicFrom .line reversed rest
          else if c = '\n' then longBasicFrom .nextLines reversed rest
          else match c, rest with
            | '\r', '\n' :: rest => longBasicFrom .nextLines reversed rest
            | _, _ => none
      | '\\', [] => none
      | c, rest => if isPlain c then longBasicFrom .none (c :: reversed) rest else none
  | [] => none

/-- The rest of a string of several lines without escapes, after `reversed`. -/
def longLiteralFrom (reversed : List Char) : Reader String
  | '\r' :: '\n' :: rest => longLiteralFrom ('\n' :: reversed) rest
  | '\'' :: '\'' :: '\'' :: rest => closeLong '\'' reversed rest
  | c :: rest =>
    if c = '\n' || isPlain c then longLiteralFrom (c :: reversed) rest else none
  | [] => none

/-- A string of one line without escapes. -/
def literal : Reader String := do
  expect '\''
  let text ← takeWhile fun c => isPlain c && c != '\''
  expect '\''
  return String.ofList text

/-- A string of one line with escapes. -/
def basic : Reader String := do
  expect '"'
  basicFrom []

/-- A string of any sort. -/
def string : Reader String
  | '"' :: '"' :: '"' :: rest => (do
      let _ ← attempt newline
      longBasicFrom .none []) rest
  | '\'' :: '\'' :: '\'' :: rest => (do
      let _ ← attempt newline
      longLiteralFrom []) rest
  | '"' :: rest => basicFrom [] rest
  | text => literal text

/-- The characters of a key without quotes. -/
def isBare (c : Char) : Bool :=
  c.isAlphanum || c = '_' || c = '-'

/-- One part of a key. -/
def keyPart : Reader String := do
  blanks
  let part ← match ← peek with
    | some '"' => basic
    | some '\'' => literal
    | _ => do
      let text ← takeWhile1 isBare
      pure (String.ofList text)
  blanks
  return part

/-- How many parts a key may have, and how deep values may be nested. -/
def depthLimit : Nat := 79

/-- A key: parts with points between them.  The last part is the name itself,
those in front of it lead to its table. -/
def key : Reader (List String × String) := do
  let parts ← separated1 keyPart '.'
  match parts.getLast? with
  | some name => if parts.length ≤ depthLimit then return (parts.dropLast, name) else refuse
  | none => refuse

end AccessTrace.Toml
