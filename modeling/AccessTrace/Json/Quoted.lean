/-
Module: AccessTrace.Json.Quoted
Purpose: JSON strings: writing text between quotes, and reading it back.
Main exports:
  Json.quote, Json.Piece, Json.Quoted, Json.Quoted.read, Json.Quoted.decode
-/
import AccessTrace.Json.Fault
import AccessTrace.Text.Hexadecimal

namespace AccessTrace.Json

open AccessTrace.Text

/-!
Only quotes, backslashes and the control characters below the blank are
escaped when text is written.

An escape of four hexadecimal digits names a unit of UTF-16.  Two of them,
a high surrogate and a low one, are one character; any other surrogate stands
for nothing.  A string that is only passed over is not held to that, so what
was read keeps its surrogates apart until the text is asked for.
-/

/-- A control character by its number. -/
def controlEscape (c : Char) : List Char :=
  ['\\', 'u', '0', '0', Hexadecimal.digit (c.toNat / 16), Hexadecimal.digit (c.toNat % 16)]

/-- A character as it is written between quotes. -/
def escape (c : Char) : List Char :=
  if c = '"' then ['\\', '"']
  else if c = '\\' then ['\\', '\\']
  else if c = '\x08' then ['\\', 'b']
  else if c = '\t' then ['\\', 't']
  else if c = '\n' then ['\\', 'n']
  else if c = '\x0c' then ['\\', 'f']
  else if c = '\r' then ['\\', 'r']
  else if c.toNat < 0x20 then controlEscape c
  else [c]

/-- Text as it is written between quotes. -/
def escapeAll : List Char → List Char
  | [] => []
  | c :: rest => escape c ++ escapeAll rest

/-- Text between quotes. -/
def quote (text : List Char) : List Char :=
  '"' :: escapeAll text ++ ['"']

/-- The character that one letter behind a backslash stands for. -/
def unescape? : Char → Option Char
  | '"' => some '"'
  | '\\' => some '\\'
  | '/' => some '/'
  | 'b' => some '\x08'
  | 'f' => some '\x0c'
  | 'n' => some '\n'
  | 'r' => some '\r'
  | 't' => some '\t'
  | _ => none

/-- What a string is made of. -/
inductive Piece where
  | char (c : Char)
  /-- A unit of UTF-16 that is no character by itself. -/
  | surrogate (unit : Nat)
deriving DecidableEq, Repr

/-- The piece that a unit of UTF-16 is. -/
def Piece.ofUnit (unit : Nat) : Piece :=
  if unit.isValidChar then .char (Char.ofNat unit) else .surrogate unit

/-- What was read behind a quote, up to the next quote or to a fault. -/
structure Quoted where
  pieces : List Piece
  fault : Option Fault := none
deriving DecidableEq, Repr

namespace Quoted

/-- A string that breaks off at once. -/
def broken (fault : Fault) : Quoted where
  pieces := []
  fault := some fault

/-- A piece in front of what was read behind it. -/
def after (piece : Piece) (read : Quoted × List Char) : Quoted × List Char :=
  ({ read.1 with pieces := piece :: read.1.pieces }, read.2)

/-- Reads on behind a quote; the answer is what was read and the text behind
the quote at its end.  The number of a unit takes four bytes, whatever they
are, before it is looked at. -/
def read : List Char → Quoted × List Char
  | [] => (broken .ended, [])
  | '"' :: rest => ({ pieces := [] }, rest)
  | '\\' :: 'u' :: a :: b :: c :: d :: rest =>
    match Hexadecimal.natural? [a, b, c, d] with
    | some unit => after (.ofUnit unit) (read rest)
    | none => (broken .malformed, [])
  | '\\' :: 'u' :: rest =>
    (broken (if (String.ofList rest).utf8ByteSize < 4 then .ended else .malformed), [])
  | '\\' :: c :: rest =>
    match unescape? c with
    | some unescaped => after (.char unescaped) (read rest)
    | none => (broken .malformed, [])
  | ['\\'] => (broken .ended, [])
  | c :: rest => if c.toNat < 0x20 then (broken .malformed, []) else after (.char c) (read rest)

/-- The character that two surrogates are together, if the first is a high one
and the second a low one. -/
def pair? (high low : Nat) : Option Char :=
  if high < 0xDC00 && 0xDC00 ≤ low then
    some (Char.ofNat (0x10000 + (high - 0xD800) * 0x400 + (low - 0xDC00)))
  else none

/-- The text of pieces that a string ends with.  A high surrogate at the end
lacks the low one, unless something else was wrong there. -/
def decodePieces (fault : Option Fault) : List Piece → Except Fault (List Char)
  | [] =>
    match fault with
    | some fault => .error fault
    | none => .ok []
  | .char c :: rest => (decodePieces fault rest).map (c :: ·)
  | [.surrogate unit] =>
    if unit < 0xDC00 then .error (fault.getD .malformed) else .error .malformed
  | .surrogate high :: .surrogate low :: rest =>
    match pair? high low with
    | some c => (decodePieces fault rest).map (c :: ·)
    | none => .error .malformed
  | .surrogate _ :: .char _ :: _ => .error .malformed

/-- The text of a string. -/
def decode (quoted : Quoted) : Except Fault String :=
  (decodePieces quoted.fault quoted.pieces).map String.ofList

/-- Refuses a string that breaks off. -/
def check (quoted : Quoted) : Except Fault Unit :=
  match quoted.fault with
  | some fault => .error fault
  | none => .ok ()

end Quoted
end AccessTrace.Json
