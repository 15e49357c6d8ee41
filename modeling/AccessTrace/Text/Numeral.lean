/-
Module: AccessTrace.Text.Numeral
Purpose: Decimal numerals of whole numbers, written and read.
Main exports:
  ofNat, powerOfTen, ofInt, digits?, natural?, integer?
-/
namespace AccessTrace.Text.Numeral

/-!
A numeral is written without a leading zero or a plus sign.  It is read more
freely: leading zeros are allowed, and so is one sign where the reader says so.
No reader bounds its result; a range is checked by whoever needs one.
-/

/-- The decimal digits of a number, most significant first. -/
def ofNat (n : Nat) : List Char :=
  Nat.toDigits 10 n

/-- The number that is written as a one and so many zeros. -/
def powerOfTen (exponent : Nat) : Nat :=
  Nat.pow 10 exponent

/-- The numeral of an integer, with a minus sign in front of a negative one. -/
def ofInt : Int → List Char
  | .ofNat n => ofNat n
  | .negSucc n => '-' :: ofNat (n + 1)

/-- One or more decimal digits. -/
def digits? (text : List Char) : Option Nat :=
  if text.isEmpty || !text.all Char.isDigit then none else some (Nat.ofDigitChars 10 text 0)

/-- Digits, with at most a plus sign in front of them. -/
def natural? : List Char → Option Nat
  | '+' :: rest => digits? rest
  | text => digits? text

/-- Digits, with at most one sign in front of them. -/
def integer? : List Char → Option Int
  | '+' :: rest => (digits? rest).map Int.ofNat
  | '-' :: rest => (digits? rest).map fun n => -Int.ofNat n
  | text => (digits? text).map Int.ofNat

theorem digits?_ofNat (n : Nat) : digits? (ofNat n) = some n := by
  have nonempty : (Nat.toDigits 10 n).isEmpty = false := by
    simp [List.isEmpty_eq_false_iff, Nat.toDigits_ne_nil]
  have allDigits : (Nat.toDigits 10 n).all Char.isDigit = true := by
    rw [List.all_eq_true]
    exact fun c hc => Nat.isDigit_of_mem_toDigits (by decide) (by decide) hc
  simp [digits?, ofNat, nonempty, allDigits]

end AccessTrace.Text.Numeral
