/-
Module: AccessTrace.Text.Blank
Purpose: White space, and the two ways in which texts are read around it.
Main exports:
  isBlank, trim, fields
-/
namespace AccessTrace.Text

/-!
White space is the Unicode property of that name: twenty-five characters, the
ASCII blanks and line separators among them.  A value is read with the blanks
around it removed, a trace line as the fields between its blanks.
-/

/-- The characters with the Unicode property `White_Space`. -/
def isBlank (c : Char) : Bool :=
  let n := c.toNat
  (9 ≤ n && n ≤ 13) || n == 0x20 || n == 0x85 || n == 0xA0 || n == 0x1680 ||
    (0x2000 ≤ n && n ≤ 0x200A) || n == 0x2028 || n == 0x2029 || n == 0x202F ||
    n == 0x205F || n == 0x3000

/-- The text without the blanks in front of it. -/
def trimStart (text : List Char) : List Char :=
  text.dropWhile isBlank

/-- The text without the blanks behind it. -/
def trimEnd (text : List Char) : List Char :=
  (text.reverse.dropWhile isBlank).reverse

/-- The text without the blanks on either side. -/
def trim (text : List Char) : List Char :=
  trimEnd (trimStart text)

/-- A text of blanks only; the empty text is one. -/
def isBlankText (text : List Char) : Bool :=
  text.all isBlank

/-- The field that was being read, in front of the fields that follow it.
A field is never empty. -/
def closeField (reversed : List Char) (following : List (List Char)) : List (List Char) :=
  if reversed.isEmpty then following else reversed.reverse :: following

/-- The fields of a text whose first field has begun with `reversed`. -/
def fieldsFrom (reversed : List Char) : List Char → List (List Char)
  | [] => closeField reversed []
  | c :: rest =>
    if isBlank c then closeField reversed (fieldsFrom [] rest)
    else fieldsFrom (c :: reversed) rest

/-- The maximal runs of characters that are not blank, from left to right. -/
def fields (text : List Char) : List (List Char) :=
  fieldsFrom [] text

end AccessTrace.Text
