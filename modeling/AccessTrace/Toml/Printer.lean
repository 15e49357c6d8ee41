/-
Module: AccessTrace.Toml.Printer
Purpose: TOML values as text, on one line as far as their strings allow it.
Main exports:
  Toml.Value.print
-/
import AccessTrace.Binary64.Layout
import AccessTrace.Toml.Text
import AccessTrace.Toml.Value

namespace AccessTrace.Toml

open AccessTrace.Text

/-!
A string is written in the plainest form that holds it.  The forms are tried in
a fixed order: double quotes, single quotes, three double quotes, three single
quotes.  A form holds a text if nothing in it needs an escape there, tabs
apart.  If no form does, the text is put in double quotes with escapes, three
of them where it has line feeds.
-/

/-- Floats without an exponent, and with a point in whole numbers. -/
def floatLayout : Binary64.Layout where
  tie := .toUpper
  positional := fun _ => true
  marksWhole := true
  notANumber := "nan"
  infinity := "inf"
  negativeInfinity := "-inf"

/-- The length of the longest run of a character, after a run of `current` of
them and others that are no longer than `longest`. -/
def longestRunFrom (c : Char) (current longest : Nat) : List Char → Nat
  | [] => max current longest
  | c' :: rest =>
    if c' = c then longestRunFrom c (current + 1) longest rest
    else longestRunFrom c 0 (max current longest) rest

/-- The length of the longest run of a character in a text. -/
def longestRun (c : Char) (text : List Char) : Nat :=
  longestRunFrom c 0 0 text

/-- Whether a character needs an escape in every form of a string.  Tabs and
line feeds do not. -/
def needsEscape (c : Char) : Bool :=
  (c.toNat < 0x20 && c != '\t' && c != '\n') || c.toNat = 0x7F

/-- A control character by its number. -/
def unicodeEscape (c : Char) : List Char :=
  ['\\', 'u', '0', '0'] ++
    [c.toNat / 16, c.toNat % 16].map fun n => (Hexadecimal.digit n).toUpper

/-- A character in a string with escapes, line feeds and quotes apart. -/
def escape (c : Char) : List Char :=
  if c = '\x08' then ['\\', 'b']
  else if c = '\t' then ['\\', 't']
  else if c = '\x0c' then ['\\', 'f']
  else if c = '\r' then ['\\', 'r']
  else if c = '\\' then ['\\', '\\']
  else if needsEscape c then unicodeEscape c
  else [c]

/-- A text in double quotes, without the quotes around it. -/
def escapeShort : List Char → List Char
  | [] => []
  | '"' :: rest => '\\' :: '"' :: escapeShort rest
  | '\n' :: rest => '\\' :: 'n' :: escapeShort rest
  | c :: rest => escape c ++ escapeShort rest

/-- A text in three double quotes, after `quotes` quotes that stand in it as
they are.  There are two of them at most; every third is escaped. -/
def escapeLong (quotes : Nat) : List Char → List Char
  | [] => []
  | '"' :: rest =>
    if quotes < 2 then '"' :: escapeLong (quotes + 1) rest
    else '\\' :: '"' :: escapeLong 0 rest
  | '\n' :: rest => '\n' :: escapeLong 0 rest
  | c :: rest => escape c ++ escapeLong 0 rest

/-- A text in double quotes. -/
def quoteBasic (text : List Char) : List Char :=
  '"' :: escapeShort text ++ ['"']

/-- A text in single quotes. -/
def quoteLiteral (text : List Char) : List Char :=
  '\'' :: text ++ ['\'']

/-- What stands between three quotes and the text, so that no line feed of its
own is lost. -/
def openingBreak (text : List Char) : List Char :=
  if text.contains '\n' then ['\n'] else []

/-- A text in three double quotes. -/
def quoteLongBasic (text : List Char) : List Char :=
  ['"', '"', '"'] ++ openingBreak text ++ escapeLong 0 text ++ ['"', '"', '"']

/-- A text in three single quotes. -/
def quoteLongLiteral (text : List Char) : List Char :=
  ['\'', '\'', '\''] ++ openingBreak text ++ text ++ ['\'', '\'', '\'']

/-- A string in the plainest form that holds it. -/
def printString (text : List Char) : List Char :=
  let escapes := text.any needsEscape
  let backslash := text.contains '\\'
  let lines := text.contains '\n'
  let double := longestRun '"' text
  let single := longestRun '\'' text
  if !escapes && !backslash && !lines && double = 0 then quoteBasic text
  else if !escapes && !lines && single = 0 then quoteLiteral text
  else if !escapes && !backslash && double ≤ 2 then quoteLongBasic text
  else if !escapes && single ≤ 2 then quoteLongLiteral text
  else if lines then quoteLongBasic text
  else quoteBasic text

/-- A key, without quotes where it needs none. -/
def printKey (text : List Char) : List Char :=
  let escapes := text.any fun c => needsEscape c || c = '\n'
  if !text.isEmpty && text.all isBare then text
  else if !escapes && !text.contains '\\' && !text.contains '"' then quoteBasic text
  else if !escapes && !text.contains '\'' then quoteLiteral text
  else quoteBasic text

/-- Texts with a comma and a blank between them. -/
def separateByCommas : List (List Char) → List Char
  | [] => []
  | [text] => text
  | text :: rest => text ++ ',' :: ' ' :: separateByCommas rest

mutual

/-- The text of a value. -/
def printValue : Value → List Char
  | .string text => printString text.toList
  | .integer value => Numeral.ofInt value.toInt
  | .float value => floatLayout.write value
  | .boolean value => (toString value).toList
  | .datetime text => text.toList
  | .array values => '[' :: separateByCommas (printValues values) ++ [']']
  | .table [] => ['\x7b', '\x7d']
  | .table entries => '\x7b' :: ' ' :: separateByCommas (printEntries entries) ++ [' ', '\x7d']

/-- The texts of several values. -/
def printValues : List Value → List (List Char)
  | [] => []
  | value :: values => printValue value :: printValues values

/-- The texts of several entries. -/
def printEntries : List (String × Value) → List (List Char)
  | [] => []
  | (key, value) :: entries =>
    (printKey key.toList ++ ' ' :: '=' :: ' ' :: printValue value) :: printEntries entries

end

/-- The text of a value by itself.  A date or a time, which inside another value
stands as it is, is then spelled as a table. -/
def Value.print : Value → String
  | .datetime text => String.ofList (printValue (.table [(datetimeKey, .string text)]))
  | value => String.ofList (printValue value)

end AccessTrace.Toml
