/-
Module: AccessTrace.Json.Reading
Purpose: JSON texts as trees, as far as they can be read.
Main exports:
  Json.Reading, Json.Reading.sound, Json.Reading.mismatch, Json.readValue
-/
import AccessTrace.Json.Number
import AccessTrace.Json.Quoted

namespace AccessTrace.Json

/-!
A text is read from left to right, and what is made of it is asked for in the
same order.  The first complaint in that order is the one that counts, whether
it is about the text or about what the text says.  A tree therefore has the
faults of its text in it, each at its own place.  Nothing is read behind a
fault.

A list or an object that ends as it should has no fault at its end.  A comma
that nothing follows is a fault of the value or the key that should stand
behind it.
-/

/-- What was read of a value. -/
inductive Reading where
  | null
  | boolean (value : Bool)
  | number (text : NumberText)
  | string (text : Quoted)
  | array (items : List Reading) (ending : Option Fault)
  | object (members : List (Quoted × Reading)) (ending : Option Fault)
  /-- An object whose first key is not a string but the given value. -/
  | keyless (first : Reading)
  /-- Nothing that begins a value. -/
  | missing (fault : Fault)
  /-- The beginning of a word. -/
  | brokenWord (fault : Fault)
  /-- The beginning of a number. -/
  | brokenNumber (fault : Fault)

/-- Refuses an end with a fault. -/
def closed : Option Fault → Except Fault Unit
  | some fault => .error fault
  | none => .ok ()

mutual

/-- Refuses a value with a fault in it, when the value is only passed over.
Nothing is asked of its strings and numbers beyond their form, and a number
that breaks off at the end of a text is no better than any other. -/
def Reading.sound : Reading → Except Fault Unit
  | .null | .boolean _ | .number _ => .ok ()
  | .string text => text.check
  | .array items ending => do
    soundItems items
    closed ending
  | .object members ending => do
    soundMembers members
    closed ending
  | .keyless _ | .brokenNumber _ => .error .malformed
  | .missing fault | .brokenWord fault => .error fault

/-- Refuses items with a fault in them. -/
def soundItems : List Reading → Except Fault Unit
  | [] => .ok ()
  | item :: items => do
    item.sound
    soundItems items

/-- Refuses members with a fault in them. -/
def soundMembers : List (Quoted × Reading) → Except Fault Unit
  | [] => .ok ()
  | (key, value) :: members => do
    key.check
    value.sound
    soundMembers members

end

/-- The complaint about a value of the wrong sort.  A string or a number is
read to its end before its sort is looked at; a list or an object is not. -/
def Reading.mismatch : Reading → Fault
  | .missing fault | .brokenWord fault | .brokenNumber fault => fault
  | .number text =>
    match text.value with
    | .error fault => fault
    | .ok _ => .mismatched
  | .string text =>
    match text.decode with
    | .error fault => fault
    | .ok _ => .mismatched
  | .null | .boolean _ | .array .. | .object .. | .keyless _ => .mismatched

/-- Whether a character may stand between the parts of a text. -/
def isBlank (c : Char) : Bool :=
  c = ' ' || c = '\n' || c = '\t' || c = '\r'

/-- A text without the blanks in front of it. -/
def skipBlanks (text : List Char) : List Char :=
  text.dropWhile isBlank

/-- The fault of a text that should go on in another way. -/
def faultAt : List Char → Fault
  | [] => .ended
  | _ => .malformed

/-- Reads the rest of a word. -/
def readWord (reading : Reading) : List Char → List Char → Reading × List Char
  | [], text => (reading, text)
  | letter :: letters, c :: rest =>
    if c = letter then readWord reading letters rest else (.brokenWord .malformed, [])
  | _ :: _, [] => (.brokenWord .ended, [])

/-- Digits at the front of a text. -/
def readDigits (text : List Char) : List Char × List Char :=
  (text.takeWhile Char.isDigit, text.dropWhile Char.isDigit)

/-- Reads the exponent of a number, if it has one. -/
def readExponent (number : NumberText) : List Char → Reading × List Char
  | 'e' :: rest | 'E' :: rest =>
    let (negative, rest) := match rest with
      | '+' :: rest => (false, rest)
      | '-' :: rest => (true, rest)
      | rest => (false, rest)
    let (digits, rest) := readDigits rest
    if digits.isEmpty then (.brokenNumber (faultAt rest), [])
    else (.number { number with exponent := some { negative, digits } }, rest)
  | rest => (.number number, rest)

/-- Reads the fraction of a number, if it has one, and what comes behind it. -/
def readFraction (number : NumberText) : List Char → Reading × List Char
  | '.' :: rest =>
    let (fraction, rest) := readDigits rest
    if fraction.isEmpty then (.brokenNumber (faultAt rest), [])
    else readExponent { number with fraction } rest
  | rest => readExponent number rest

/-- Reads a number behind its sign.  No zero stands in front of other digits. -/
def readNumber (negative : Bool) (text : List Char) : Reading × List Char :=
  match readDigits text with
  | ([], rest) => (.brokenNumber (faultAt rest), [])
  | ('0' :: _ :: _, _) => (.brokenNumber .malformed, [])
  | (whole, rest) => readFraction { negative, whole } rest

/-- Reads a value that holds no others. -/
def readScalar : List Char → Reading × List Char
  | [] => (.missing .ended, [])
  | 'n' :: rest => readWord .null ['u', 'l', 'l'] rest
  | 't' :: rest => readWord (.boolean true) ['r', 'u', 'e'] rest
  | 'f' :: rest => readWord (.boolean false) ['a', 'l', 's', 'e'] rest
  | '-' :: rest => readNumber true rest
  | '"' :: rest =>
    let (text, rest) := Quoted.read rest
    (.string text, rest)
  | c :: rest => if c.isDigit then readNumber false (c :: rest) else (.missing .malformed, [])

mutual

/-- Reads a value.  The depth of its lists and objects is bounded by the first
argument. -/
def readValue : Nat → List Char → Reading × List Char
  | 0, _ => (.missing .malformed, [])
  | fuel + 1, text =>
    match skipBlanks text with
    | '[' :: rest =>
      match skipBlanks rest with
      | [] => (.array [] (some .ended), [])
      | ']' :: rest => (.array [] none, rest)
      | first =>
        let (items, ending, rest) := readItems fuel first
        (.array items ending, rest)
    | '\x7b' :: rest =>
      match skipBlanks rest with
      | [] => (.object [] (some .ended), [])
      | '\x7d' :: rest => (.object [] none, rest)
      | '"' :: rest =>
        let (members, ending, rest) := readMembers fuel rest
        (.object members ending, rest)
      | first => (.keyless (readValue fuel first).1, [])
    | scalar => readScalar scalar

/-- Reads the items of a list from one of them on, and the bracket that closes
the list. -/
def readItems : Nat → List Char → List Reading × Option Fault × List Char
  | 0, _ => ([], some .malformed, [])
  | fuel + 1, text =>
    let (item, rest) := readValue fuel text
    match skipBlanks rest with
    | ']' :: rest => ([item], none, rest)
    | ',' :: rest =>
      match skipBlanks rest with
      | ']' :: _ => ([item, .missing .malformed], none, [])
      | next =>
        let (items, ending, rest) := readItems fuel next
        (item :: items, ending, rest)
    | rest => ([item], some (faultAt rest), [])

/-- Reads the members of an object from one of them on, behind the quote that
begins its key, and the brace that closes the object. -/
def readMembers : Nat → List Char → List (Quoted × Reading) × Option Fault × List Char
  | 0, _ => ([], some .malformed, [])
  | fuel + 1, text =>
    let (key, rest) := Quoted.read text
    match skipBlanks rest with
    | ':' :: rest =>
      let (value, rest) := readValue fuel rest
      match skipBlanks rest with
      | '\x7d' :: rest => ([(key, value)], none, rest)
      | ',' :: rest =>
        match skipBlanks rest with
        | '"' :: rest =>
          let (members, ending, rest) := readMembers fuel rest
          ((key, value) :: members, ending, rest)
        | rest =>
          ([(key, value), (.broken (faultAt rest), .missing (faultAt rest))], none, [])
      | rest => ([(key, value)], some (faultAt rest), [])
    | rest => ([(key, .missing (faultAt rest))], none, [])

end

/-- The value that a text begins with, and the text behind it. -/
def readText (text : List Char) : Reading × List Char :=
  readValue (2 * text.length + 1) text

end AccessTrace.Json
