/-
Module: AccessTrace.Proofs.Json.Strings
Purpose: JSON strings: any text is read as it was written.
Main exports:
  Json.Quoted.ofText, Json.Quoted.read_escapeAll, Json.Quoted.decode_ofText
-/
import Mathlib
import AccessTrace.Json.Quoted

namespace AccessTrace.Json

open AccessTrace.Text

namespace Quoted

/-- What is read where a text was written. -/
def ofText (text : String) : Quoted where
  pieces := text.toList.map Piece.char

theorem ofUnit_toNat (c : Char) : Piece.ofUnit c.toNat = .char c := by
  have valid : c.toNat.isValidChar := c.valid
  rw [Piece.ofUnit, if_pos valid, Char.ofNat_toNat]

/-- The number of a control character is written in hexadecimal digits. -/
theorem natural?_controlEscape {n : Nat} (control : n < 0x20) :
    Hexadecimal.natural? ['0', '0', Hexadecimal.digit (n / 16), Hexadecimal.digit (n % 16)] =
      some n := by
  revert n
  decide

/-- A character is read as it was written. -/
theorem read_escape (c : Char) (rest : List Char) :
    read (escape c ++ rest) = after (.char c) (read rest) := by
  unfold escape
  split_ifs with quote backslash backspace tab feed formFeed carriage control
  · subst quote
    rfl
  · subst backslash
    rfl
  · subst backspace
    rfl
  · subst tab
    rfl
  · subst feed
    rfl
  · subst formFeed
    rfl
  · subst carriage
    rfl
  · rw [controlEscape, List.cons_append, List.cons_append, List.cons_append, List.cons_append,
      List.cons_append, List.cons_append, List.nil_append, read, natural?_controlEscape control]
    simp only [ofUnit_toNat]
  · rw [List.cons_append, List.nil_append, read.eq_def]
    simp [backslash, control]

theorem read_escapeAll (text rest : List Char) :
    read (escapeAll text ++ '"' :: rest) = ({ pieces := text.map Piece.char }, rest) := by
  induction text with
  | nil => rfl
  | cons c text ih =>
      rw [escapeAll, List.append_assoc, read_escape, ih]
      rfl

theorem decode_ofText (text : String) : (ofText text).decode = .ok text := by
  have pieces (letters : List Char) : decodePieces none (letters.map Piece.char) = .ok letters := by
    induction letters with
    | nil => rfl
    | cons c letters ih =>
        rw [List.map_cons, decodePieces, ih]
        rfl
  rw [decode, ofText, pieces]
  exact congrArg Except.ok String.ofList_toList

end Quoted
end AccessTrace.Json
