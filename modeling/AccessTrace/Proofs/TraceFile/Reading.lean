/-
Module: AccessTrace.Proofs.TraceFile.Reading
Purpose: What reading makes of the content of any file, line by line.
Main exports:
  TraceFile.PhysicalLines, TraceFile.physicalLines_iff, TraceFile.Stands, TraceFile.Offends,
  TraceFile.all_or_first, TraceFile.LineByLine, TraceFile.line_by_line
-/
import Mathlib
import AccessTrace.Proofs.TraceFile.RoundTrip

namespace AccessTrace.TraceFile

open AccessTrace.Text

/-!
A content is any bytes at all.  Its lines are told apart by line feeds alone.
A line is in order if it is text and either blank or the line of a record, and
reading gives the records of the lines up to the first line that is not in
order.  That line decides the failure, and it is known by its number among all
lines.
-/

/-! ### The lines of a content -/

/-- The lines that a content is made of. -/
inductive PhysicalLines : List UInt8 → List (List UInt8) → Prop where
  | none : PhysicalLines [] []
  /-- A last line may lack its line feed. -/
  | unended {line : List UInt8} (nonempty : line ≠ []) (solid : 10 ∉ line) :
      PhysicalLines line [line]
  | ended {line rest : List UInt8} {others : List (List UInt8)} (solid : 10 ∉ line)
      (bare : line.getLast? ≠ some 13) (following : PhysicalLines rest others) :
      PhysicalLines (line ++ 10 :: rest) (line :: others)
  /-- One carriage return in front of a line feed belongs to the end of the line. -/
  | returned {line rest : List UInt8} {others : List (List UInt8)} (solid : 10 ∉ line)
      (following : PhysicalLines rest others) :
      PhysicalLines (line ++ 13 :: 10 :: rest) (line :: others)

theorem linesFrom_done (done : Array (List UInt8)) (reversed content : List UInt8) :
    (linesFrom done reversed content).toList =
      done.toList ++ (linesFrom #[] reversed content).toList := by
  induction content generalizing done reversed with
  | nil =>
      by_cases empty : reversed.isEmpty = true
      · simp [linesFrom, empty]
      · simp [linesFrom, empty]
  | cons byte content ih =>
      by_cases feed : byte = 10
      · subst feed
        rw [linesFrom, ih, linesFrom, ih (Array.push #[] _)]
        simp
      · rw [linesFrom.eq_3 _ _ _ _ feed, ih, linesFrom.eq_3 _ _ _ _ feed]

theorem lines_nil : lines [] = [] := rfl

theorem lines_feed {line : List UInt8} (solid : 10 ∉ line) (rest : List UInt8) :
    lines (line ++ 10 :: rest) = (dropReturn line.reverse).reverse :: lines rest := by
  have each : ∀ byte ∈ line, byte ≠ 10 := by
    rintro byte member rfl
    exact solid member
  rw [lines, linesFrom_append each, List.append_nil, linesFrom_done]
  rfl

theorem lines_unended {line : List UInt8} (nonempty : line ≠ []) (solid : 10 ∉ line) :
    lines line = [line] := by
  have following (reversed : List UInt8) :
      linesFrom #[] reversed line = linesFrom #[] (line.reverse ++ reversed) [] := by
    clear nonempty
    induction line generalizing reversed with
    | nil => rfl
    | cons byte line ih =>
        rw [List.mem_cons, not_or] at solid
        rw [linesFrom.eq_3 _ _ _ _ (Ne.symm solid.1), ih solid.2]
        simp
  rw [lines, following]
  simp [linesFrom, nonempty]

theorem dropReturn_reverse_of_bare {line : List UInt8} (bare : line.getLast? ≠ some 13) :
    (dropReturn line.reverse).reverse = line := by
  rw [← List.head?_reverse] at bare
  unfold dropReturn
  split
  · rename_i reversed ends
    rw [ends] at bare
    exact absurd rfl bare
  · exact List.reverse_reverse line

theorem dropReturn_reverse_of_returned (line : List UInt8) :
    (dropReturn (line ++ [13]).reverse).reverse = line := by
  simp [dropReturn]

/-- Cutting a content finds the lines that it is made of. -/
theorem lines_of_physicalLines {content : List UInt8} {found : List (List UInt8)}
    (physical : PhysicalLines content found) : lines content = found := by
  induction physical with
  | none => exact lines_nil
  | unended nonempty solid => exact lines_unended nonempty solid
  | ended solid bare following ih =>
      rw [lines_feed solid, dropReturn_reverse_of_bare bare, ih]
  | @returned line rest others solid following ih =>
      have solid' : 10 ∉ line ++ [13] := by simp [solid]
      have apart : line ++ 13 :: 10 :: rest = (line ++ [13]) ++ 10 :: rest := by simp
      rw [apart, lines_feed solid', dropReturn_reverse_of_returned, ih]

/-- A byte in front of a content lengthens its first line. -/
theorem PhysicalLines.exists_cons {content : List UInt8} {found : List (List UInt8)}
    (physical : PhysicalLines content found) {byte : UInt8} (solidByte : byte ≠ 10) :
    ∃ longer, PhysicalLines (byte :: content) longer := by
  have lengthened {line : List UInt8} (solid : 10 ∉ line) : 10 ∉ byte :: line := by
    simp [solid, Ne.symm solidByte]
  cases physical with
  | none => exact ⟨_, unended (List.cons_ne_nil byte []) (lengthened List.not_mem_nil)⟩
  | unended nonempty solid => exact ⟨_, unended (List.cons_ne_nil byte _) (lengthened solid)⟩
  | returned solid following => exact ⟨_, returned (lengthened solid) following⟩
  | @ended line rest others solid bare following =>
      -- A carriage return that becomes the whole line belongs to the end of it.
      by_cases isReturn : (byte :: line).getLast? = some 13
      · cases line with
        | nil =>
            obtain rfl : byte = 13 := by simpa using isReturn
            exact ⟨_, @returned [] _ _ List.not_mem_nil following⟩
        | cons second line =>
            rw [List.getLast?_cons_cons] at isReturn
            exact absurd isReturn bare
      · exact ⟨_, ended (lengthened solid) isReturn following⟩

/-- Every content is made of lines. -/
theorem exists_physicalLines (content : List UInt8) :
    ∃ found, PhysicalLines content found := by
  induction content with
  | nil => exact ⟨[], .none⟩
  | cons byte content ih =>
      obtain ⟨found, physical⟩ := ih
      by_cases feed : byte = 10
      · subst feed
        exact ⟨_, @PhysicalLines.ended [] _ _ List.not_mem_nil (by simp) physical⟩
      · exact physical.exists_cons feed

/-- What cutting a content gives is what the content is made of, and nothing else is. -/
theorem physicalLines_iff (content : List UInt8) (found : List (List UInt8)) :
    PhysicalLines content found ↔ found = lines content := by
  constructor
  · intro physical
    exact (lines_of_physicalLines physical).symm
  · rintro rfl
    obtain ⟨found, physical⟩ := exists_physicalLines content
    rw [lines_of_physicalLines physical]
    exact physical

/-! ### Single lines -/

theorem lineText?_eq_some_iff (line : List UInt8) (text : String) :
    lineText? line = some text ↔ line = text.toUTF8.toList := by
  rw [lineText?, String.fromUTF8?]
  constructor
  · intro read
    split at read
    · cases read
      simp [toList_eq_data, String.fromUTF8]
    · cases read
  · rintro rfl
    rw [toByteArray_toList]
    exact dif_pos text.isValidUTF8

/-- What a line in order stands for: a record, or nothing if the line is blank. -/
inductive Stands : List UInt8 → Option Record → Prop where
  | blank {text : String} (blanks : ∀ c ∈ text.toList, isBlank c = true) :
      Stands text.toUTF8.toList none
  | record {text : String} {record : Record} (visible : ∃ c ∈ text.toList, isBlank c = false)
      (parsed : Record.parse text = .ok record) : Stands text.toUTF8.toList (some record)

/-- How reading the file at a path fails at the line with a number. -/
inductive Offends (path : String) (number : Nat) : List UInt8 → Failure → Prop where
  | notText {line : List UInt8} (noText : ∀ text : String, line ≠ text.toUTF8.toList) :
      Offends path number line
        { steps := ["Failed to read " ++ path], cause := .io .notText }
  | malformed {text : String} (visible : ∃ c ∈ text.toList, isBlank c = false)
      (refused : ∀ record, Record.parse text ≠ .ok record) :
      Offends path number text.toUTF8.toList
        { steps := [path ++ ":" ++ String.ofList (Numeral.ofNat number)]
          cause := .malformedLine { line := text } }

/-- A text with something in it to see is not taken for a blank line. -/
theorem isBlankText_eq_false_iff (text : List Char) :
    isBlankText text = false ↔ ∃ c ∈ text, isBlank c = false := by
  simp [isBlankText]

/-- Every line is in order or is where reading fails. -/
theorem stands_or_offends (path : String) (number : Nat) (line : List UInt8) :
    (∃ found, Stands line found) ∨ ∃ failure, Offends path number line failure := by
  cases decoded : lineText? line with
  | none =>
      refine .inr ⟨_, .notText ?_⟩
      intro text same
      rw [(lineText?_eq_some_iff line text).2 same] at decoded
      cases decoded
  | some text =>
      obtain rfl := (lineText?_eq_some_iff line text).1 decoded
      cases blank : isBlankText text.toList with
      | true => exact .inl ⟨none, .blank (List.all_eq_true.1 blank)⟩
      | false =>
          have visible := (isBlankText_eq_false_iff _).1 blank
          cases parsed : Record.parse text with
          | ok record => exact .inl ⟨some record, .record visible parsed⟩
          | error malformed =>
              refine .inr ⟨_, .malformed visible ?_⟩
              intro record
              rw [parsed]
              exact nofun

theorem lineText?_text (text : String) : lineText? text.toUTF8.toList = some text :=
  (lineText?_eq_some_iff _ _).2 rfl

theorem readFrom_of_stands {line : List UInt8} {found : Option Record} (stands : Stands line found)
    (number : Nat) (done : Array Record) (rest : List (List UInt8)) :
    readFrom number done (line :: rest) = readFrom (number + 1) (done ++ found.toList) rest := by
  cases stands with
  | @blank text blanks =>
      have blank : isBlankText text.toList = true := List.all_eq_true.2 blanks
      rw [readFrom, lineText?_text]
      simp [blank]
  | @record text record visible parsed =>
      have noBlank := (isBlankText_eq_false_iff _).2 visible
      rw [readFrom, lineText?_text]
      simp [noBlank, parsed]

theorem readFrom_of_offends {path : String} {number : Nat} {line : List UInt8} {failure : Failure}
    (offends : Offends path number line failure) (done : Array Record)
    (rest : List (List UInt8)) :
    (readFrom number done (line :: rest)).mapError (·.failure path) = .error failure := by
  cases offends with
  | notText noText =>
      have undecoded : lineText? line = none := by
        rw [Option.eq_none_iff_forall_ne_some]
        intro text decoded
        exact noText text ((lineText?_eq_some_iff line text).1 decoded)
      rw [readFrom, undecoded]
      rfl
  | @malformed text visible refused =>
      have noBlank := (isBlankText_eq_false_iff _).2 visible
      have error : Record.parse text = .error { line := text } := by
        unfold Record.parse at refused ⊢
        split
        · rename_i record read
          rw [read] at refused
          exact absurd rfl (refused record)
        · rfl
      rw [readFrom, lineText?_text]
      simp only [noBlank, error, Bool.false_eq_true, if_false]
      rfl

/-! ### All lines -/

/-- Lines that are all in order give the records among what they stand for. -/
theorem readFrom_of_all {present : List (List UInt8)} {found : List (Option Record)}
    (all : List.Forall₂ Stands present found) (number : Nat) (done : Array Record) :
    readFrom number done present = .ok (done ++ found.reduceOption) := by
  induction all generalizing number done with
  | nil => simp [readFrom]
  | @cons line value present found stands all ih =>
      rw [readFrom_of_stands stands, ih]
      cases value with
      | none => simp [List.reduceOption_cons_of_none]
      | some record => simp [List.reduceOption_cons_of_some]

/-- The first line that is not in order decides, whatever stands behind it. -/
theorem readFrom_of_first {path : String} {before : List (List UInt8)} {line : List UInt8}
    {failure : Failure} (inOrder : ∀ earlier ∈ before, ∃ found, Stands earlier found)
    (number : Nat) (offends : Offends path (number + before.length) line failure)
    (done : Array Record) (after : List (List UInt8)) :
    (readFrom number done (before ++ line :: after)).mapError (·.failure path) =
      .error failure := by
  induction before generalizing number done with
  | nil => exact readFrom_of_offends offends done after
  | cons earlier before ih =>
      obtain ⟨⟨found, stands⟩, others⟩ := List.forall_mem_cons.1 inOrder
      rw [List.cons_append, readFrom_of_stands stands]
      apply ih others
      rwa [List.length_cons, Nat.add_comm before.length, ← Nat.add_assoc] at offends

/-- Either all lines are in order, or there is a first one that is not. -/
theorem all_or_first (path : String) (number : Nat) (present : List (List UInt8)) :
    (∃ found, List.Forall₂ Stands present found) ∨
      ∃ before line after failure, present = before ++ line :: after ∧
        (∀ earlier ∈ before, ∃ found, Stands earlier found) ∧
        Offends path (number + before.length) line failure := by
  induction present generalizing number with
  | nil => exact .inl ⟨[], .nil⟩
  | cons line present ih =>
      rcases stands_or_offends path number line with ⟨value, stands⟩ | ⟨failure, offends⟩
      · rcases ih (number + 1) with ⟨found, all⟩ | ⟨before, bad, after, failure, rfl, inOrder, bads⟩
        · exact .inl ⟨value :: found, .cons stands all⟩
        · refine .inr ⟨line :: before, bad, after, failure, rfl, ?_, ?_⟩
          · exact List.forall_mem_cons.2 ⟨⟨value, stands⟩, inOrder⟩
          · rwa [List.length_cons, Nat.add_comm before.length, ← Nat.add_assoc]
      · exact .inr ⟨[], line, present, failure, rfl, by simp, offends⟩

/-- Nothing behind a line that is not in order has a part in the result. -/
theorem readFrom_congr {line : List UInt8} (disorder : ¬ ∃ found, Stands line found)
    (path : String) (before after after' : List (List UInt8)) (number : Nat)
    (done : Array Record) :
    (readFrom number done (before ++ line :: after)).mapError (·.failure path) =
      (readFrom number done (before ++ line :: after')).mapError (·.failure path) := by
  induction before generalizing number done with
  | nil =>
      rcases stands_or_offends path number line with stands | ⟨failure, offends⟩
      · exact absurd stands disorder
      · exact (readFrom_of_offends offends done after).trans
          (readFrom_of_offends offends done after').symm
  | cons earlier before ih =>
      rw [List.cons_append, List.cons_append]
      rcases stands_or_offends path number earlier with ⟨found, stands⟩ | ⟨failure, offends⟩
      · rw [readFrom_of_stands stands, readFrom_of_stands stands]
        exact ih (number + 1) (done ++ found.toList)
      · rw [readFrom_of_offends offends, readFrom_of_offends offends]

theorem decode_eq_mapError (path : String) (content : ByteArray) :
    decode path (.ok content) =
      (readFrom 1 #[] (lines content.toList)).mapError (·.failure path) := by
  rw [decode, readRecords]
  cases readFrom 1 #[] (lines content.toList) <;> rfl

theorem decode_of_all {content : ByteArray} {found : List (Option Record)}
    (all : List.Forall₂ Stands (lines content.toList) found) (path : String) :
    decode path (.ok content) = .ok found.reduceOption.toArray := by
  rw [decode_eq_mapError, readFrom_of_all all]
  simp [Except.mapError]

theorem decode_of_first {path : String} {content : ByteArray} {before after : List (List UInt8)}
    {line : List UInt8} {failure : Failure}
    (cut : lines content.toList = before ++ line :: after)
    (inOrder : ∀ earlier ∈ before, ∃ found, Stands earlier found)
    (offends : Offends path (before.length + 1) line failure) :
    decode path (.ok content) = .error failure := by
  rw [Nat.add_comm] at offends
  rw [decode_eq_mapError, cut]
  exact readFrom_of_first inOrder 1 offends #[] after

/-- How a content is read. -/
structure LineByLine (path : String) (content : ByteArray) : Prop where
  /-- The lines are those of the content. -/
  cut : ∀ found, PhysicalLines content.toList found ↔ found = lines content.toList
  /-- Reading succeeds exactly if all lines are in order, with their records in order. -/
  accepts : ∀ records : Array Record, decode path (.ok content) = .ok records ↔
    ∃ found, List.Forall₂ Stands (lines content.toList) found ∧
      records.toList = found.reduceOption
  /-- Reading fails exactly if some line is not in order, and as the first of them says. -/
  refuses : ∀ failure : Failure, decode path (.ok content) = .error failure ↔
    ∃ before line after, lines content.toList = before ++ line :: after ∧
      (∀ earlier ∈ before, ∃ found, Stands earlier found) ∧
      Offends path (before.length + 1) line failure
  /-- The lines behind that line do not matter. -/
  ignores : ∀ (other : ByteArray) (before after after' : List (List UInt8)) (line : List UInt8),
    lines content.toList = before ++ line :: after →
      lines other.toList = before ++ line :: after' → (¬ ∃ found, Stands line found) →
        decode path (.ok content) = decode path (.ok other)

/-- Every content is read line by line, up to the first line that is not in order. -/
theorem line_by_line (path : String) (content : ByteArray) : LineByLine path content := by
  constructor
  · exact physicalLines_iff content.toList
  · intro records
    constructor
    · intro read
      rcases all_or_first path 1 (lines content.toList) with
        ⟨found, all⟩ | ⟨before, line, after, failure, cut, inOrder, offends⟩
      · rw [decode_of_all all] at read
        cases read
        exact ⟨found, all, rfl⟩
      · rw [Nat.add_comm] at offends
        rw [decode_of_first cut inOrder offends] at read
        cases read
    · rintro ⟨found, all, same⟩
      rw [decode_of_all all, ← same]
  · intro failure
    constructor
    · intro read
      rcases all_or_first path 1 (lines content.toList) with
        ⟨found, all⟩ | ⟨before, line, after, failure', cut, inOrder, offends⟩
      · rw [decode_of_all all] at read
        cases read
      · rw [Nat.add_comm] at offends
        rw [decode_of_first cut inOrder offends] at read
        cases read
        exact ⟨before, line, after, cut, inOrder, offends⟩
    · rintro ⟨before, line, after, cut, inOrder, offends⟩
      exact decode_of_first cut inOrder offends
  · intro other before after after' line cut cut' disorder
    rw [decode_eq_mapError, decode_eq_mapError, cut, cut']
    exact readFrom_congr disorder path before after after' 1 #[]

/-- A line that is no record is named by its number, which counts the blank lines before it. -/
theorem line_by_line_numbered :
    let content := "1 8\r\n\n \t\nwrite 3\n0 x".toUTF8
    PhysicalLines content.toList (lines content.toList) ∧
      ∃ failure, decode "trace.out" (.ok content) = .error failure ∧
        failure.message = "trace.out:4: malformed trace line: 'write 3'" := by
  intro content
  have reading := line_by_line "trace.out" content
  have cut : lines content.toList =
      ["1 8", "", " \t"].map (·.toUTF8.toList) ++ "write 3".toUTF8.toList ::
        ["0 x".toUTF8.toList] := by decide +kernel
  have blank {text : String} (blanks : isBlankText text.toList = true) :
      ∃ found, Stands text.toUTF8.toList found := ⟨none, .blank (List.all_eq_true.1 blanks)⟩
  have first : Stands "1 8".toUTF8.toList (some { kind := .write, address := 8 }) :=
    .record ⟨'1', by decide, by decide⟩ (by decide +kernel)
  have inOrder : ∀ earlier ∈ ["1 8", "", " \t"].map (·.toUTF8.toList),
      ∃ found, Stands earlier found := by
    simp only [List.map_cons, List.map_nil, List.forall_mem_cons]
    exact ⟨⟨_, first⟩, blank (by decide), blank (by decide), nofun⟩
  have refused : Record.parse "write 3" = .error { line := "write 3" } := by decide +kernel
  have offends := @Offends.malformed "trace.out" 4 "write 3" ⟨'w', by decide, by decide⟩
    (by simp [refused])
  exact ⟨(reading.cut _).2 rfl, _, (reading.refuses _).2 ⟨_, _, _, cut, inOrder, offends⟩,
    by decide +kernel⟩

end AccessTrace.TraceFile
