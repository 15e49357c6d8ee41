/-
Module: AccessTrace.Proofs.TraceFile.Line
Purpose: The line of a record reads back as that record.
Main exports:
  Text.fields_two, Record.plain_of_mem_line, Record.read?_line, Record.parse_line
-/
import Mathlib
import AccessTrace.Record

namespace AccessTrace

open AccessTrace.Text

namespace Text

/-! ### Fields -/

theorem isBlank_of_isDigit {c : Char} (digit : c.isDigit = true) : isBlank c = false := by
  have range : 48 ≤ c.toNat ∧ c.toNat ≤ 57 := by
    simp only [Char.isDigit, Bool.and_eq_true, decide_eq_true_eq, ge_iff_le,
      UInt32.le_iff_toNat_le] at digit
    exact digit
  unfold isBlank
  simp only [Bool.or_eq_false_iff, Bool.and_eq_false_iff, decide_eq_false_iff_not,
    beq_eq_false_iff_ne]
  omega

/-- A field grows up to the next blank. -/
theorem fieldsFrom_append {field : List Char} (solid : ∀ c ∈ field, isBlank c = false)
    (reversed rest : List Char) :
    fieldsFrom reversed (field ++ rest) = fieldsFrom (field.reverse ++ reversed) rest := by
  induction field generalizing reversed with
  | nil => rfl
  | cons c field ih =>
      obtain ⟨first, others⟩ := List.forall_mem_cons.1 solid
      rw [List.cons_append, fieldsFrom, if_neg (by simp [first]), ih others]
      simp

/-- Two runs without blanks, one blank between them, are two fields. -/
theorem fields_two {first second : List Char} {blank : Char}
    (solidFirst : ∀ c ∈ first, isBlank c = false) (solidSecond : ∀ c ∈ second, isBlank c = false)
    (between : isBlank blank = true) (someFirst : first ≠ []) (someSecond : second ≠ []) :
    fields (first ++ blank :: second) = [first, second] := by
  have last := fieldsFrom_append solidSecond [] []
  rw [List.append_nil] at last
  rw [fields, fieldsFrom_append solidFirst, fieldsFrom, if_pos between, last]
  simp [fieldsFrom, closeField, someFirst, someSecond]

end Text

/-! ### Numerals -/

namespace Text.Numeral

theorem isDigit_of_mem_ofNat {n : Nat} {c : Char} (member : c ∈ ofNat n) : c.isDigit = true :=
  Nat.isDigit_of_mem_toDigits (by decide) (by decide) member

theorem ofNat_ne_nil (n : Nat) : ofNat n ≠ [] :=
  Nat.toDigits_ne_nil

/-- Digits are cut off a text up to what is none. -/
theorem span_digits {digits rest : List Char} (all : ∀ c ∈ digits, c.isDigit = true)
    (stops : ∀ c ∈ rest.head?, c.isDigit = false) :
    (digits ++ rest).takeWhile Char.isDigit = digits ∧
      (digits ++ rest).dropWhile Char.isDigit = rest := by
  have none : rest.takeWhile Char.isDigit = [] ∧ rest.dropWhile Char.isDigit = rest := by
    cases rest with
    | nil => exact ⟨rfl, rfl⟩
    | cons c rest => simp [stops c rfl]
  rw [List.takeWhile_append_of_pos all, List.dropWhile_append_of_pos all, none.1, none.2,
    List.append_nil]
  exact ⟨rfl, rfl⟩

/-- A numeral has no sign, so that reading one with a sign allowed is the same. -/
theorem natural?_ofNat (n : Nat) : natural? (ofNat n) = some n := by
  have read := digits?_ofNat n
  unfold natural?
  split
  · rename_i rest text
    have sign : '+' ∈ ofNat n := by
      rw [text]
      exact List.mem_cons_self
    have noDigit : Char.isDigit '+' = false := by decide
    rw [isDigit_of_mem_ofNat sign] at noDigit
    cases noDigit
  · exact read

/-- Only the numeral of zero begins with a zero. -/
theorem exists_leading {n : Nat} (positive : 0 < n) :
    ∃ digit rest, ofNat n = digit :: rest ∧ digit ≠ '0' := by
  induction n using Nat.strong_induction_on with
  | _ n ih =>
      by_cases single : n < 10
      · refine ⟨n.digitChar, [], Nat.toDigits_of_lt_base single, ?_⟩
        interval_cases n <;> decide
      · have tens : 0 < n / 10 := Nat.div_pos (not_lt.1 single) (by decide)
        have less : n / 10 < n := Nat.div_lt_self positive (by decide)
        obtain ⟨digit, rest, front, leading⟩ := ih (n / 10) less tens
        refine ⟨digit, rest ++ [(n % 10).digitChar], ?_, leading⟩
        rw [ofNat, Nat.toDigits_of_base_le (by decide) (not_lt.1 single)]
        rw [ofNat] at front
        rw [front, List.cons_append]

/-- No zero stands in front of the other digits of a numeral. -/
theorem leading_ofNat (n : Nat) : ∀ rest, ofNat n = '0' :: rest → rest = [] := by
  intro rest front
  rcases Nat.eq_zero_or_pos n with rfl | positive
  · cases front
    rfl
  · obtain ⟨digit, others, found, leading⟩ := exists_leading positive
    rw [found] at front
    cases front
    exact absurd rfl leading

end Text.Numeral

/-! ### Records -/

namespace Record

/-- A line has digits and spaces in it, and nothing else. -/
theorem plain_of_mem_line {record : Record} {c : Char} (member : c ∈ record.line) :
    c = ' ' ∨ c.isDigit = true := by
  rw [line, List.mem_append, List.mem_cons] at member
  rcases member with kind | space | address
  · exact .inr (Numeral.isDigit_of_mem_ofNat kind)
  · exact .inl space
  · exact .inr (Numeral.isDigit_of_mem_ofNat address)

theorem fields_line (record : Record) :
    fields record.line =
      [Numeral.ofNat record.kind.code, Numeral.ofNat record.address.toNat] := by
  apply fields_two
  · intro c member
    exact isBlank_of_isDigit (Numeral.isDigit_of_mem_ofNat member)
  · intro c member
    exact isBlank_of_isDigit (Numeral.isDigit_of_mem_ofNat member)
  · rfl
  · exact Numeral.ofNat_ne_nil _
  · exact Numeral.ofNat_ne_nil _

/-- A line is not taken for an empty one. -/
theorem isBlankText_line (record : Record) : isBlankText record.line = false := by
  obtain ⟨c, digits, first⟩ := List.exists_cons_of_ne_nil
    (Numeral.ofNat_ne_nil record.kind.code)
  have digit : c.isDigit = true := by
    apply Numeral.isDigit_of_mem_ofNat (n := record.kind.code)
    rw [first]
    exact List.mem_cons_self
  rw [line, first, List.cons_append, isBlankText, List.all_cons, isBlank_of_isDigit digit,
    Bool.false_and]

theorem read?_line (record : Record) : read? record.line = some record := by
  obtain ⟨kind, address⟩ := record
  have word : address.toNat < UInt64.size := address.toNat_lt
  unfold read?
  rw [fields_line]
  simp only [readKind?, readAddress?, Numeral.natural?_ofNat, Option.bind_some,
    Kind.ofCode?_code, word, if_true, UInt64.ofNat_toNat, Option.bind_eq_bind]
  rfl

theorem parse_line (record : Record) : parse (String.ofList record.line) = .ok record := by
  rw [parse, String.toList_ofList, read?_line]

end Record
end AccessTrace
