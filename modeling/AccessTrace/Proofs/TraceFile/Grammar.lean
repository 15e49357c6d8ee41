/-
Module: AccessTrace.Proofs.TraceFile.Grammar
Purpose: The lines that stand for records, and the one line among them that is written.
Main exports:
  Text.fields_eq, Numeral.Unsigned, Numeral.natural?_eq_some_iff, Record.WrittenAs,
  Record.parse_eq_ok_iff, Record.Canonical, Record.line_grammar
-/
import Mathlib
import AccessTrace.Proofs.Parameter.Integers
import AccessTrace.Proofs.TraceFile.Line

namespace AccessTrace

open AccessTrace.Text

/-!
A line is cut at its blanks, and what is left between them are its fields.  Two
fields that are numbers, the first of them a code and the second an address, are
a record; everything else is no record.  Of the many lines for one record one is
written, and it is known by its form: a digit, a space, and digits without a zero
too many in front.
-/

namespace Text

/-! ### Fields -/

theorem fieldsFrom_eq (reversed text : List Char) :
    fieldsFrom reversed text =
      ((text.splitOnP isBlank).modifyHead (reversed.reverse ++ ·)).filter (· ≠ []) := by
  induction text generalizing reversed with
  | nil => cases reversed <;> simp [fieldsFrom, closeField]
  | cons c text ih =>
      obtain ⟨first, others, cut⟩ := List.exists_cons_of_ne_nil (List.splitOnP_ne_nil isBlank text)
      rw [fieldsFrom, List.splitOnP_cons_eq_if_modifyHead, ih, ih, cut]
      cases blank : isBlank c with
      | true => cases reversed <;> simp [closeField]
      | false => simp

/-- The fields of a text are what is left of it between its blanks. -/
theorem fields_eq (text : List Char) :
    fields text = (text.splitOnP isBlank).filter (· ≠ []) := by
  rw [fields, fieldsFrom_eq]
  cases text.splitOnP isBlank <;> simp

namespace Numeral

/-! ### Numbers without a minus sign -/

/-- A text that is a number: one or more digits, with perhaps a plus sign in
front of them.  Leading zeros are allowed. -/
def Unsigned (text : List Char) (n : Nat) : Prop :=
  ∃ number : Signed, number.sign ≠ .minus ∧ text = number.text ∧ n = number.value

/-- A number is read from the texts that it can be written as, and from no others. -/
theorem natural?_eq_some_iff {text : List Char} {n : Nat} :
    natural? text = some n ↔ Unsigned text n := by
  constructor
  · intro read
    unfold natural? at read
    split at read
    · rename_i digits
      obtain ⟨some, all, rfl⟩ := digits?_eq_some_iff.1 read
      exact ⟨⟨.plus, digits, some, all⟩, nofun, rfl, rfl⟩
    · obtain ⟨some, all, rfl⟩ := digits?_eq_some_iff.1 read
      exact ⟨⟨.absent, text, some, all⟩, nofun, rfl, rfl⟩
  · rintro ⟨⟨sign, digits, some, all⟩, noMinus, rfl, value⟩
    cases sign with
    | minus => exact absurd rfl noMinus
    | plus => exact digits?_eq_some_iff.2 ⟨some, all, Int.ofNat.inj value⟩
    | absent =>
        change natural? digits = _
        unfold natural?
        split
        · exact absurd (all '+' List.mem_cons_self) (by decide)
        · exact digits?_eq_some_iff.2 ⟨some, all, Int.ofNat.inj value⟩

theorem Unsigned.unique {text : List Char} {n m : Nat} (first : Unsigned text n)
    (second : Unsigned text m) : n = m := by
  have read := natural?_eq_some_iff.2 first
  rw [natural?_eq_some_iff.2 second] at read
  exact (Option.some.inj read).symm

theorem unsigned_ofNat (n : Nat) : Unsigned (ofNat n) n :=
  natural?_eq_some_iff.1 (natural?_ofNat n)

/-! ### Numbers without a zero too many -/

/-- Digits without a zero in front of others. -/
structure Plain (digits : List Char) : Prop where
  nonempty : digits ≠ []
  isDigit : ∀ c ∈ digits, c.isDigit = true
  leading : ∀ rest, digits = '0' :: rest → rest = []

theorem digitChar_of_isDigit {c : Char} (digit : c.isDigit = true) :
    (c.toNat - 48).digitChar = c := by
  have range := isDigit_iff_toNat.1 digit
  apply Char.toNat_inj.1
  rw [Nat.toNat_digitChar_of_lt_ten (by omega)]
  omega

/-- Digits behind a number other than zero make it longer. -/
theorem ofNat_append {digits : List Char} (all : ∀ c ∈ digits, c.isDigit = true) {n : Nat}
    (positive : 0 < n) : ofNat n ++ digits = ofNat (Nat.ofDigitChars 10 digits n) := by
  induction digits generalizing n with
  | nil => simp
  | cons c digits ih =>
      obtain ⟨first, others⟩ := List.forall_mem_cons.1 all
      have range := isDigit_iff_toNat.1 first
      have longer : ofNat n ++ [c] = ofNat (10 * n + (c.toNat - 48)) := by
        have last : Nat.toDigits 10 (c.toNat - 48) = [c] := by
          rw [Nat.toDigits_of_lt_base (by omega), digitChar_of_isDigit first]
        rw [ofNat, ofNat, ← Nat.toDigits_append_toDigits (by decide) positive (by omega), last]
      rw [← List.singleton_append, ← List.append_assoc, longer, ih others (by omega)]
      rfl

/-- Plain digits are the numeral of their number. -/
theorem Plain.ofNat_eq {digits : List Char} (plain : Plain digits) {n : Nat}
    (written : Unsigned digits n) : ofNat n = digits := by
  obtain ⟨c, rest, rfl⟩ := List.exists_cons_of_ne_nil plain.nonempty
  obtain ⟨first, others⟩ := List.forall_mem_cons.1 plain.isDigit
  have range := isDigit_iff_toNat.1 first
  have value : Nat.ofDigitChars 10 (c :: rest) 0 = n := by
    have read := natural?_eq_some_iff.2 written
    unfold natural? at read
    split at read
    · rename_i equation
      cases equation
      exact absurd first (by decide)
    · rw [digits?_eq_some_iff, ← ofDigitChars_eq_ofDigits] at read
      exact read.2.2.symm
  by_cases zero : c = '0'
  · subst zero
    obtain rfl := plain.leading rest rfl
    subst value
    rfl
  · have positive : 0 < c.toNat - 48 := by
      have other : c.toNat ≠ 48 := fun same => zero (Char.toNat_inj.1 same)
      omega
    have leading : ofNat (c.toNat - 48) = [c] := by
      rw [ofNat, Nat.toDigits_of_lt_base (by omega), digitChar_of_isDigit first]
    rw [← value, Nat.ofDigitChars_cons, Nat.mul_zero, Nat.zero_add, ← List.singleton_append,
      ← leading, ofNat_append others positive]
    rfl

theorem plain_ofNat (n : Nat) : Plain (ofNat n) where
  nonempty := ofNat_ne_nil n
  isDigit _ := isDigit_of_mem_ofNat
  leading := leading_ofNat n

end Numeral
end Text

/-! ### Lines -/

namespace Record

/-- A line with two fields between its blanks, which are the numbers of a kind and
of an address. -/
def WrittenAs (line : List Char) (code address : Nat) : Prop :=
  ∃ first second, (line.splitOnP isBlank).filter (· ≠ []) = [first, second] ∧
    Numeral.Unsigned first code ∧ Numeral.Unsigned second address

theorem WrittenAs.unique {line : List Char} {code address code' address' : Nat}
    (one : WrittenAs line code address) (other : WrittenAs line code' address') :
    code = code' ∧ address = address' := by
  obtain ⟨first, second, cut, isCode, isAddress⟩ := one
  obtain ⟨first', second', cut', isCode', isAddress'⟩ := other
  rw [cut] at cut'
  cases cut'
  exact ⟨isCode.unique isCode', isAddress.unique isAddress'⟩

theorem ofCode?_eq_some_iff {code : Nat} {kind : Kind} :
    Kind.ofCode? code = some kind ↔ kind.code = code := by
  constructor
  · intro read
    unfold Kind.ofCode? at read
    split at read
    · cases read
      rfl
    · cases read
      rfl
    · cases read
  · rintro rfl
    exact Kind.ofCode?_code kind

theorem readKind?_eq_some_iff {field : List Char} {kind : Kind} :
    readKind? field = some kind ↔ Numeral.Unsigned field kind.code := by
  rw [readKind?, Option.bind_eq_some_iff]
  constructor
  · rintro ⟨code, read, known⟩
    rw [ofCode?_eq_some_iff.1 known]
    exact Numeral.natural?_eq_some_iff.1 read
  · intro written
    exact ⟨kind.code, Numeral.natural?_eq_some_iff.2 written, Kind.ofCode?_code kind⟩

theorem readAddress?_eq_some_iff {field : List Char} {address : UInt64} :
    readAddress? field = some address ↔ Numeral.Unsigned field address.toNat := by
  rw [readAddress?, Option.bind_eq_some_iff]
  constructor
  · rintro ⟨n, read, fits⟩
    split at fits
    · rename_i small
      cases fits
      rw [UInt64.toNat_ofNat_of_lt' small]
      exact Numeral.natural?_eq_some_iff.1 read
    · cases fits
  · intro written
    refine ⟨address.toNat, Numeral.natural?_eq_some_iff.2 written, ?_⟩
    rw [if_pos address.toNat_lt, UInt64.ofNat_toNat]

theorem read?_eq_some_iff {line : List Char} {record : Record} :
    read? line = some record ↔ WrittenAs line record.kind.code record.address.toNat := by
  unfold read? WrittenAs
  rw [← fields_eq]
  constructor
  · intro read
    split at read
    · rename_i first second cut
      obtain ⟨kind, readKind, read⟩ := Option.bind_eq_some_iff.1 read
      obtain ⟨address, readAddress, made⟩ := Option.bind_eq_some_iff.1 read
      cases made
      exact ⟨first, second, cut, readKind?_eq_some_iff.1 readKind,
        readAddress?_eq_some_iff.1 readAddress⟩
    · cases read
  · rintro ⟨first, second, cut, isCode, isAddress⟩
    rw [cut]
    simp only [readKind?_eq_some_iff.2 isCode, readAddress?_eq_some_iff.2 isAddress]
    rfl

/-- A line is read as the record that it is written for, and as no other. -/
theorem parse_eq_ok_iff {line : String} {record : Record} :
    parse line = .ok record ↔ WrittenAs line.toList record.kind.code record.address.toNat := by
  rw [← read?_eq_some_iff, parse]
  cases read? line.toList <;> simp

theorem parse_eq_error_iff {line : String} {error : MalformedLine} :
    parse line = .error error ↔ (∀ record, parse line ≠ .ok record) ∧ error = { line } := by
  unfold parse
  cases read? line.toList <;> simp [eq_comm]

theorem code_le_one (kind : Kind) : kind.code ≤ 1 := by
  cases kind <;> decide

/-- Codes above one and addresses beyond 64 bits belong to no record. -/
theorem exists_record_iff {line : List Char} :
    (∃ record : Record, WrittenAs line record.kind.code record.address.toNat) ↔
      ∃ code address, WrittenAs line code address ∧ code ≤ 1 ∧ address ≤ 2 ^ 64 - 1 := by
  constructor
  · rintro ⟨⟨kind, address⟩, written⟩
    exact ⟨_, _, written, code_le_one kind, Nat.le_sub_one_of_lt address.toNat_lt⟩
  · rintro ⟨code, address, written, known, fits⟩
    have small : address < UInt64.size := by
      have size : UInt64.size = 2 ^ 64 := rfl
      omega
    have value : (UInt64.ofNat address).toNat = address := UInt64.toNat_ofNat_of_lt' small
    interval_cases code
    · exact ⟨⟨.read, UInt64.ofNat address⟩, by rwa [value]⟩
    · exact ⟨⟨.write, UInt64.ofNat address⟩, by rwa [value]⟩

/-! ### The line that is written -/

/-- A line as it is written: one digit for the kind, a space, and an address
without a zero too many. -/
def Canonical (line : List Char) : Prop :=
  ∃ kind digits address, line = kind :: ' ' :: digits ∧ (kind = '0' ∨ kind = '1') ∧
    Numeral.Plain digits ∧ Numeral.Unsigned digits address ∧ address ≤ 2 ^ 64 - 1

theorem line_eq (record : Record) :
    record.line = record.kind.code.digitChar :: ' ' :: Numeral.ofNat record.address.toNat := by
  have digit : Numeral.ofNat record.kind.code = [record.kind.code.digitChar] :=
    Nat.toDigits_of_lt_base ((code_le_one record.kind).trans_lt (by decide))
  rw [line, digit, List.singleton_append]

theorem canonical_line (record : Record) : Canonical record.line := by
  obtain ⟨kind, address⟩ := record
  have plain := Numeral.plain_ofNat address.toNat
  have written := Numeral.unsigned_ofNat address.toNat
  have fits := Nat.le_sub_one_of_lt address.toNat_lt
  rw [line_eq]
  cases kind with
  | read => exact ⟨'0', _, _, rfl, .inl rfl, plain, written, fits⟩
  | write => exact ⟨'1', _, _, rfl, .inr rfl, plain, written, fits⟩

/-- Every canonical line is the line of a record. -/
theorem Canonical.exists_line {line : List Char} (canonical : Canonical line) :
    ∃ record : Record, line = record.line := by
  obtain ⟨kind, digits, address, rfl, known, plain, written, fits⟩ := canonical
  have small : address < UInt64.size := by
    have size : UInt64.size = 2 ^ 64 := rfl
    omega
  have numeral : Numeral.ofNat (UInt64.ofNat address).toNat = digits := by
    rw [UInt64.toNat_ofNat_of_lt' small]
    exact plain.ofNat_eq written
  rcases known with rfl | rfl
  · exact ⟨⟨.read, UInt64.ofNat address⟩, by rw [line_eq, numeral]; rfl⟩
  · exact ⟨⟨.write, UInt64.ofNat address⟩, by rw [line_eq, numeral]; rfl⟩

/-- What reading makes of a line. -/
structure LineGrammar (line : String) : Prop where
  /-- A line is accepted if it has two fields, the first a number up to one and
  the second a number that 64 bits hold. -/
  accepted : (∃ record, parse line = .ok record) ↔
    ∃ code address, WrittenAs line.toList code address ∧ code ≤ 1 ∧ address ≤ 2 ^ 64 - 1
  /-- The numbers are those of the record. -/
  result : ∀ record code address, parse line = .ok record → WrittenAs line.toList code address →
    record.kind.code = code ∧ record.address.toNat = address
  /-- Any other line is given back whole. -/
  refused : ∀ error, parse line = .error error ↔
    (¬∃ code address, WrittenAs line.toList code address ∧ code ≤ 1 ∧ address ≤ 2 ^ 64 - 1) ∧
      error.line = line
  /-- The record of an accepted line is written as a canonical line, which is read
  as the same record. -/
  printed : ∀ record, parse line = .ok record →
    Canonical record.line ∧ parse (String.ofList record.line) = .ok record
  /-- The lines that come out as they went in are the canonical ones. -/
  unchanged : (∃ record, parse line = .ok record ∧ String.ofList record.line = line) ↔
    Canonical line.toList

/-- Every line is read by the grammar. -/
theorem line_grammar (line : String) : LineGrammar line := by
  have accepted : (∃ record, parse line = .ok record) ↔
      ∃ code address, WrittenAs line.toList code address ∧ code ≤ 1 ∧ address ≤ 2 ^ 64 - 1 := by
    simp only [parse_eq_ok_iff]
    exact exists_record_iff
  constructor
  · exact accepted
  · intro record code address read written
    exact (parse_eq_ok_iff.1 read).unique written
  · rintro ⟨whole⟩
    rw [parse_eq_error_iff, ← accepted, not_exists, MalformedLine.mk.injEq]
  · intro record read
    exact ⟨canonical_line record, parse_line record⟩
  · constructor
    · rintro ⟨record, -, rfl⟩
      rw [String.toList_ofList]
      exact canonical_line record
    · intro canonical
      obtain ⟨record, same⟩ := canonical.exists_line
      have text : String.ofList record.line = line := by
        rw [← same, String.ofList_toList]
      refine ⟨record, ?_, text⟩
      rw [← text]
      exact parse_line record

/-- Blanks of any sort, a plus and zeros in front do no harm. -/
example : parse "\u2003+1\t0018446744073709551615\r" =
    .ok { kind := .write, address := 0xFFFFFFFFFFFFFFFF } := by
  decide +kernel

end Record
end AccessTrace
