/-
Module: AccessTrace.Text.Parts
Purpose: Texts cut at every place where a separator stands.
Main exports:
  parts, partsOf
-/
namespace AccessTrace.Text

/-- The parts of a text whose first part has begun with `reversed`. -/
def partsFrom (separator : Char) (reversed : List Char) : List Char → List (List Char)
  | [] => [reversed.reverse]
  | c :: rest =>
    if c = separator then reversed.reverse :: partsFrom separator [] rest
    else partsFrom separator (c :: reversed) rest

/-- The parts of a text between its separators, empty ones included.  There is
one more of them than there are separators. -/
def parts (separator : Char) (text : List Char) : List (List Char) :=
  partsFrom separator [] text

/-- The parts of a string. -/
def partsOf (separator : Char) (text : String) : List String :=
  (parts separator text.toList).map String.ofList

end AccessTrace.Text
