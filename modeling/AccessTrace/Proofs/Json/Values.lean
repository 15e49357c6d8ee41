/-
Module: AccessTrace.Proofs.Json.Values
Purpose: JSON values: in either form, a value is read as it was written.
Main exports:
  Json.Value.toReading, Json.readValue_print, Json.readText_print, Json.printMember,
  Json.exists_print_eq
-/
import Mathlib
import AccessTrace.Proofs.Json.Reals
import AccessTrace.Proofs.Json.Strings

namespace AccessTrace.Json

open AccessTrace.Text

/-!
What a value is read as does not depend on the form in which it was written, nor
on the depth at which it stands.  The two forms differ in blanks only, and
blanks are passed over.
-/

mutual

/-- What is read where a value was written. -/
def Value.toReading : Value → Reading
  | .null => .null
  | .boolean value => .boolean value
  | .integer value => .number (.ofInt value)
  | .real value => realReading value
  | .string text => .string (.ofText text)
  | .object members => .object (memberReadings members) none

/-- What is read where members were written. -/
def memberReadings : List (String × Value) → List (Quoted × Reading)
  | [] => []
  | (key, value) :: members => (.ofText key, value.toReading) :: memberReadings members

end

/-! ### Blanks -/

theorem skipBlanks_append {blanks : List Char} (blank : ∀ c ∈ blanks, isBlank c = true)
    (text : List Char) : skipBlanks (blanks ++ text) = skipBlanks text :=
  List.dropWhile_append_of_pos blank

theorem skipBlanks_cons {c : Char} (solid : isBlank c = false) (text : List Char) :
    skipBlanks (c :: text) = c :: text := by
  simp [skipBlanks, solid]

theorem blank_of_mem_lineBreak (form : Form) (depth : Nat) :
    ∀ c ∈ form.lineBreak depth, isBlank c = true := by
  cases form with
  | compact => simp [Form.lineBreak]
  | pretty => simp +contextual [Form.lineBreak, isBlank]

theorem readValue_append {blanks : List Char} (blank : ∀ c ∈ blanks, isBlank c = true)
    (fuel : Nat) (text : List Char) : readValue fuel (blanks ++ text) = readValue fuel text := by
  cases fuel with
  | zero => rfl
  | succ fuel => rw [readValue, readValue, skipBlanks_append blank]

/-! ### Values without others in them -/

/-- Whether a value that is neither a list nor an object can begin with a
character. -/
def beginsScalar (c : Char) : Bool :=
  !isBlank c && c != '[' && c != '\x7b'

/-- Whether a text begins such a value. -/
def Begins (text : List Char) : Prop :=
  ∃ c rest, text = c :: rest ∧ beginsScalar c = true

theorem readValue_scalar {text : List Char} (begins : Begins text) (fuel : Nat) (rest : List Char) :
    readValue (fuel + 1) (text ++ rest) = readScalar (text ++ rest) := by
  obtain ⟨c, text, rfl, first⟩ := begins
  simp only [beginsScalar, Bool.and_eq_true, Bool.not_eq_true', bne_iff_ne] at first
  obtain ⟨⟨solid, noList⟩, noObject⟩ := first
  rw [readValue, List.cons_append, skipBlanks_cons solid]
  split
  · rename_i equation
    cases equation
    exact absurd rfl noList
  · rename_i equation
    cases equation
    exact absurd rfl noObject
  · rfl

theorem begins_number {text : NumberText} (formed : text.WellFormed) : Begins text.print := by
  obtain ⟨digit, digits, whole, isDigit⟩ := formed.exists_first
  have other := ne_of_isDigit isDigit
  rw [NumberText.print, whole]
  cases text.negative with
  | true => exact ⟨'-', _, rfl, rfl⟩
  | false =>
      refine ⟨digit, _, rfl, ?_⟩
      simp [beginsScalar, isBlank, other ' ' rfl, other '\n' rfl, other '\t' rfl, other '\r' rfl,
        other '[' rfl, other '\x7b' rfl]

theorem begins_real (value : Binary64) : Begins (realLayout.write value) := by
  cases value with
  | nan => exact ⟨'n', _, rfl, rfl⟩
  | infinite negative => cases negative <;> exact ⟨'n', _, rfl, rfl⟩
  | finite negative rank h =>
      rw [← NumberText.print_ofMagnitude negative h]
      exact begins_number (NumberText.wellFormed_ofMagnitude negative h)

theorem readScalar_string (text : String) (rest : List Char) :
    readScalar (quote text.toList ++ rest) = (.string (.ofText text), rest) := by
  rw [quote, List.cons_append, List.cons_append, List.append_assoc, List.cons_append,
    List.nil_append, readScalar, Quoted.read_escapeAll]
  rfl

/-! ### Values as a whole -/

-- The fuel bounds the depth of a value, and no value is deeper than its text is long.

/-- Blanks and a brace stand behind the last member. -/
theorem ends_closing {blanks : List Char} (blank : ∀ c ∈ blanks, isBlank c = true)
    (rest : List Char) : Ends (blanks ++ '\x7d' :: rest) := by
  cases blanks with
  | nil => exact ends_cons rfl _
  | cons c blanks =>
      have first := blank c List.mem_cons_self
      simp only [isBlank, Bool.or_eq_true, decide_eq_true_eq] at first
      rcases first with ((rfl | rfl) | rfl) | rfl
      all_goals exact ends_cons rfl _

theorem ends_printRest (form : Form) (depth : Nat) (members : List (String × Value))
    {closing : List Char} (ends : Ends closing) :
    Ends (printRest form depth members ++ closing) := by
  cases members with
  | nil => exact ends
  | cons member members => exact ends_cons rfl _

theorem readValue_of_scalar {text rest : List Char} {reading : Reading} (begins : Begins text)
    {fuel : Nat} (le : text.length ≤ fuel)
    (read : readScalar (text ++ rest) = (reading, rest)) :
    readValue fuel (text ++ rest) = (reading, rest) := by
  cases fuel with
  | zero =>
      obtain ⟨c, text, rfl, -⟩ := begins
      cases le
  | succ fuel => exact (readValue_scalar begins fuel rest).trans read

/-- What stands between a key and its value is passed over. -/
theorem skipBlanks_colon (form : Form) : ∃ blanks, form.colon = ':' :: blanks ∧
    ∀ c ∈ blanks, isBlank c = true := by
  cases form with
  | compact => exact ⟨[], rfl, by simp⟩
  | pretty => exact ⟨[' '], rfl, by simp [isBlank]⟩

section
variable {fuel : Nat} {blanks rest inner : List Char}
  (blank : ∀ c ∈ blanks, isBlank c = true)
include blank

theorem readValue_object {members : List (Quoted × Reading)}
    (read : readMembers fuel inner = (members, none, rest)) :
    readValue (fuel + 1) ('\x7b' :: (blanks ++ '"' :: inner)) = (.object members none, rest) := by
  rw [readValue, skipBlanks_cons rfl]
  simp only [skipBlanks_append blank, skipBlanks_cons (show isBlank '"' = false from rfl), read]

theorem readMembers_last (form : Form) (key : String) {text : List Char} {reading : Reading}
    (read : readValue fuel (text ++ (blanks ++ '\x7d' :: rest)) =
      (reading, blanks ++ '\x7d' :: rest)) :
    readMembers (fuel + 1) (escapeAll key.toList ++
      '"' :: (form.colon ++ (text ++ (blanks ++ '\x7d' :: rest)))) =
      ([(.ofText key, reading)], none, rest) := by
  obtain ⟨behind, colon, blankBehind⟩ := skipBlanks_colon form
  rw [readMembers, Quoted.read_escapeAll, colon, List.cons_append]
  simp only [skipBlanks_cons (show isBlank ':' = false from rfl), readValue_append blankBehind,
    read, skipBlanks_append blank, skipBlanks_cons (show isBlank '\x7d' = false from rfl)]
  rfl

theorem readMembers_next (form : Form) (key : String) {text : List Char} {reading : Reading}
    (read : readValue fuel (text ++ (',' :: (blanks ++ '"' :: inner))) =
      (reading, ',' :: (blanks ++ '"' :: inner)))
    {members : List (Quoted × Reading)} (others : readMembers fuel inner = (members, none, rest)) :
    readMembers (fuel + 1) (escapeAll key.toList ++
      '"' :: (form.colon ++ (text ++ (',' :: (blanks ++ '"' :: inner))))) =
      ((.ofText key, reading) :: members, none, rest) := by
  obtain ⟨behind, colon, blankBehind⟩ := skipBlanks_colon form
  rw [readMembers, Quoted.read_escapeAll, colon, List.cons_append]
  simp only [skipBlanks_cons (show isBlank ':' = false from rfl), readValue_append blankBehind,
    read, skipBlanks_cons (show isBlank ',' = false from rfl), skipBlanks_append blank,
    skipBlanks_cons (show isBlank '"' = false from rfl), others]
  rfl

end

mutual

/-- A value is read to its end, and no further. -/
theorem readValue_print (form : Form) (depth : Nat) : ∀ (value : Value) (fuel : Nat)
    {rest : List Char}, (print form depth value).length ≤ fuel → Ends rest →
      readValue fuel (print form depth value ++ rest) = (value.toReading, rest)
  | .null, _, _, le, _ =>
      readValue_of_scalar ⟨'n', _, rfl, rfl⟩ le rfl
  | .boolean true, _, _, le, _ =>
      readValue_of_scalar ⟨'t', _, rfl, rfl⟩ le rfl
  | .boolean false, _, _, le, _ =>
      readValue_of_scalar ⟨'f', _, rfl, rfl⟩ le rfl
  | .integer value, fuel, rest, le, ends => by
      rw [print, ← NumberText.print_ofInt] at le ⊢
      have formed := NumberText.wellFormed_ofInt value
      exact readValue_of_scalar (begins_number formed) le (readScalar_print formed ends)
  | .real value, fuel, rest, le, ends =>
      readValue_of_scalar (begins_real value) le (readScalar_real value ends)
  | .string text, fuel, rest, le, ends =>
      readValue_of_scalar ⟨'"', _, rfl, rfl⟩ le
        (readScalar_string text rest)
  | .object [], fuel, rest, le, ends => by
      cases fuel with
      | zero => cases le
      | succ fuel => rfl
  | .object ((key, value) :: members), fuel, rest, le, ends => by
      have short : (print form (depth + 1) value).length +
          (printRest form (depth + 1) members).length + 1 < fuel := by
        simp only [print, quote, List.length_append, List.length_cons] at le
        omega
      cases fuel with
      | zero => cases short
      | succ fuel =>
          have inside := readMembers_print form (depth + 1) (blank_of_mem_lineBreak form depth)
            key value members fuel rest (Nat.lt_of_succ_lt_succ short)
          simp only [print, quote, List.cons_append, List.append_assoc, List.nil_append]
          exact readValue_object (blank_of_mem_lineBreak form (depth + 1)) inside
termination_by value => sizeOf value

/-- Members are read up to the brace behind them. -/
theorem readMembers_print (form : Form) (depth : Nat) {closing : List Char}
    (blank : ∀ c ∈ closing, isBlank c = true) : ∀ (key : String) (value : Value)
    (members : List (String × Value)) (fuel : Nat) (rest : List Char),
    (print form depth value).length + (printRest form depth members).length < fuel →
      readMembers fuel (escapeAll key.toList ++ '"' :: (form.colon ++ (print form depth value ++
        (printRest form depth members ++ (closing ++ '\x7d' :: rest))))) =
        (memberReadings ((key, value) :: members), none, rest)
  | key, value, [], fuel, rest, lt => by
      cases fuel with
      | zero => cases lt
      | succ fuel =>
          have read := readValue_print form depth value fuel (Nat.le_of_lt_succ lt)
            (ends_closing blank rest)
          exact readMembers_last blank form key read
  | key, value, (next, content) :: members, fuel, rest, lt => by
      have short : (print form depth value).length + (print form depth content).length +
          (printRest form depth members).length + 1 < fuel := by
        simp only [printRest, quote, List.length_append, List.length_cons] at lt
        omega
      cases fuel with
      | zero => cases short
      | succ fuel =>
          have others := readMembers_print form depth blank next content members fuel rest
            (by omega)
          have read := readValue_print form depth value fuel (by omega)
            (ends_printRest form depth ((next, content) :: members) (ends_closing blank rest))
          simp only [printRest, quote, List.cons_append, List.append_assoc, List.nil_append]
            at read ⊢
          exact readMembers_next (blank_of_mem_lineBreak form depth) form key read others
termination_by _ value members => sizeOf value + sizeOf members

end

/-- A text as a whole is read as the value that was written. -/
theorem readText_print (form : Form) (value : Value) {rest : List Char} (ends : Ends rest) :
    readText (print form 0 value ++ rest) = (value.toReading, rest) := by
  apply readValue_print form 0 value _ _ ends
  rw [List.length_append]
  omega

/-! ### Members as they stand in a text -/

/-- The characters of a member at a depth, from its line break on. -/
def printMember (form : Form) (depth : Nat) (key : String) (value : Value) : List Char :=
  form.lineBreak depth ++ quote key.toList ++ form.colon ++ print form depth value

section
variable (form : Form) (depth : Nat) (key : String) (value : Value)
  (members : List (String × Value))

theorem print_object : print form depth (.object ((key, value) :: members)) =
    '\x7b' :: printMember form (depth + 1) key value ++ printRest form (depth + 1) members ++
      (form.lineBreak depth ++ ['\x7d']) := by
  simp only [print, printMember, List.cons_append, List.append_assoc]

theorem printRest_cons : printRest form depth ((key, value) :: members) =
    ',' :: printMember form depth key value ++ printRest form depth members := by
  simp only [printRest, printMember, List.cons_append, List.append_assoc]

end

section
variable {key : String} {value : Value} {members : List (String × Value)}

theorem exists_printRest_eq (form : Form) (depth : Nat) (member : (key, value) ∈ members) :
    ∃ before after, printRest form depth members =
      before ++ printMember form depth key value ++ after := by
  induction members with
  | nil => cases member
  | cons first members ih =>
      obtain ⟨name, content⟩ := first
      rw [printRest_cons]
      rcases List.mem_cons.1 member with same | other
      · cases same
        exact ⟨[','], printRest form depth members, rfl⟩
      · obtain ⟨before, after, rest⟩ := ih other
        refine ⟨',' :: printMember form depth name content ++ before, after, ?_⟩
        rw [rest]
        simp only [List.cons_append, List.append_assoc]

/-- A member stands as a whole in the text of its object. -/
theorem exists_print_eq (form : Form) (depth : Nat) (member : (key, value) ∈ members) :
    ∃ before after, print form depth (.object members) =
      before ++ printMember form (depth + 1) key value ++ after := by
  cases members with
  | nil => cases member
  | cons first members =>
      obtain ⟨name, content⟩ := first
      rw [print_object]
      rcases List.mem_cons.1 member with same | other
      · cases same
        refine ⟨['\x7b'], printRest form (depth + 1) members ++ (form.lineBreak depth ++ ['\x7d']),
          ?_⟩
        simp only [List.cons_append, List.nil_append, List.append_assoc]
      · obtain ⟨before, after, rest⟩ := exists_printRest_eq form (depth + 1) other
        refine ⟨'\x7b' :: printMember form (depth + 1) name content ++ before,
          after ++ (form.lineBreak depth ++ ['\x7d']), ?_⟩
        rw [rest]
        simp only [List.cons_append, List.append_assoc]

end

end AccessTrace.Json
