/-
Module: AccessTrace.Toml.Number
Purpose: Integers and floats of TOML documents.
Main exports:
  Toml.integer, Toml.float
-/
import AccessTrace.Binary64.Decimal
import AccessTrace.Toml.Text

namespace AccessTrace.Toml

open Reader AccessTrace.Text

/-!
Digits may have underscores between them, one at a time.  A decimal number has
no leading zeros, though the digits of an exponent or a fraction may.  The
other bases have no sign.  An integer has 64 bits at most.  A float too large
to be finite is refused, unless it is negative.
-/

/-- Whether a text is digits with single underscores between them, when the
character before it was a digit or was not. -/
def isDigitRun (isDigit : Char → Bool) (afterDigit : Bool) : List Char → Bool
  | [] => afterDigit
  | c :: rest =>
    if isDigit c then isDigitRun isDigit true rest
    else c = '_' && afterDigit && isDigitRun isDigit false rest

/-- Digits with underscores between them; the underscores are left out. -/
def digitRun (isDigit : Char → Bool) : Reader (List Char) := do
  let text ← takeWhile1 fun c => isDigit c || c = '_'
  if isDigitRun isDigit false text then return text.filter (· != '_') else refuse

/-- A sign, if there is one. -/
def sign : Reader (List Char) := do
  match ← peek with
  | some '+' => do expect '+'; return ['+']
  | some '-' => do expect '-'; return ['-']
  | _ => return []

/-- A decimal number with perhaps a sign and without leading zeros. -/
def decimal : Reader (List Char) := do
  let before ← sign
  let digits ← digitRun Char.isDigit
  match digits with
  | '0' :: _ :: _ => refuse
  | _ => return before ++ digits

/-- An integer, if 64 bits are enough for it. -/
def within64 (value : Int) : Reader Int64 :=
  if -0x8000000000000000 ≤ value && value < 0x8000000000000000 then return Int64.ofInt value
  else refuse

/-- An integer without a sign in some base, after its mark. -/
def inBase (mark : String) (base : Nat) (isDigit : Char → Bool) : Reader Int64 := do
  expectAll mark
  let digits ← digitRun isDigit
  within64 (digits.foldl (fun n c => base * n + (Hexadecimal.digit? c).getD 0) 0 : Nat)

/-- An integer. -/
def integer : Reader Int64 :=
  inBase "0x" 16 (fun c => (Hexadecimal.digit? c).isSome)
  <|> inBase "0o" 8 (fun c => '0' ≤ c && c ≤ '7')
  <|> inBase "0b" 2 (fun c => c = '0' || c = '1')
  <|> do
    match Numeral.integer? (← decimal) with
    | some value => within64 value
    | none => refuse

/-- A point and the digits behind it. -/
def fraction : Reader (List Char) := do
  expect '.'
  return '.' :: (← digitRun Char.isDigit)

/-- The mark of an exponent and the exponent. -/
def exponent : Reader (List Char) := do
  let mark ← next
  if mark = 'e' || mark = 'E' then
    let before ← sign
    return 'e' :: before ++ (← digitRun Char.isDigit)
  else refuse

/-- A number with a fraction, with an exponent, or with both. -/
def floatText : Reader (List Char) := do
  let whole ← decimal
  match ← peek with
  | some '.' =>
    let places ← fraction
    match ← peek with
    | some 'e' | some 'E' => return whole ++ places ++ (← exponent)
    | _ => return whole ++ places
  | _ => return whole ++ (← exponent)

/-- The words for what has no digits, with perhaps a sign. -/
def specialFloat : Reader Binary64 := do
  let before ← sign
  (do expectAll "inf"; return .infinite (before = ['-'])) <|> (do expectAll "nan"; return .nan)

/-- A float. -/
def float : Reader Binary64 :=
  (do
    match Binary64.read? (← floatText) with
    | some (.infinite false) => refuse
    | some value => return value
    | none => refuse)
  <|> specialFloat

end AccessTrace.Toml
