/-
Module: AccessTrace.Proofs.TraceFile.Written
Purpose: The text of a trace: a line for each record, from which the records can be had again.
Main exports:
  TraceFile.text, TraceFile.splitOn_text, TraceFile.joined_chunks, TraceFile.decode_text,
  TraceFile.text_injective, TraceFile.lossless, TraceFile.short_writes_reported
-/
import Mathlib
import AccessTrace.Proofs.Storage.FileTree
import AccessTrace.Proofs.Storage.Limited
import AccessTrace.Proofs.TraceFile.RoundTrip

namespace AccessTrace.TraceFile

/-!
The text of a trace is what its records stand for in a file.  Cut at the line
feeds it gives the lines of the records and, behind the last line feed,
nothing.  A writer that reports success has written this text and no other.
-/

/-- The text of a trace: the lines of its records, with a line feed after each. -/
def text (records : Array Record) : String :=
  String.join (records.toList.map fun record => String.ofList (record.line ++ ['\n']))

/-! ### Lines -/

theorem toList_text (records : Array Record) :
    (text records).toList = records.toList.flatMap fun record => record.line ++ ['\n'] := by
  simp [text, List.flatMap_map]

/-- The lines of records, with nothing behind the last one, are joined by line
feeds into the lines that each end in one. -/
theorem intercalate_lines (records : List Record) :
    ['\n'].intercalate (records.map Record.line ++ [[]]) =
      records.flatMap fun record => record.line ++ ['\n'] := by
  induction records with
  | nil => rfl
  | cons record records ih =>
      obtain ⟨next, others, rest⟩ :=
        List.exists_cons_of_ne_nil (List.append_ne_nil_of_right_ne_nil
          (records.map Record.line) (List.cons_ne_nil [] []))
      rw [List.map_cons, List.cons_append, List.flatMap_cons, ← ih, rest,
        List.intercalate_cons_cons]

theorem lineFeed_not_mem_line (record : Record) : '\n' ∉ record.line := by
  intro member
  rcases Record.plain_of_mem_line member with space | digit
  · exact absurd space (by decide)
  · exact absurd digit (by decide)

/-- A trace is made of digits, spaces and line feeds. -/
theorem plain_of_mem_text {records : Array Record} {c : Char}
    (member : c ∈ (text records).toList) : c = ' ' ∨ c.isDigit = true ∨ c = '\n' := by
  rw [toList_text, List.mem_flatMap] at member
  obtain ⟨record, -, inLine⟩ := member
  rcases List.mem_append.1 inLine with inside | last
  · rcases Record.plain_of_mem_line inside with space | digit
    · exact .inl space
    · exact .inr (.inl digit)
  · exact .inr (.inr (List.mem_singleton.1 last))

/-- Cut at its line feeds, the text of a trace is the lines of its records. -/
theorem splitOn_text (records : Array Record) :
    (text records).toList.splitOn '\n' = records.toList.map Record.line ++ [[]] := by
  rw [toList_text, ← intercalate_lines]
  apply List.splitOn_intercalate
  · intro line member
    rcases List.mem_append.1 member with inside | last
    · obtain ⟨record, -, rfl⟩ := List.mem_map.1 inside
      exact lineFeed_not_mem_line record
    · rw [List.mem_singleton.1 last]
      exact List.not_mem_nil
  · exact List.append_ne_nil_of_right_ne_nil _ (List.cons_ne_nil _ _)

/-! ### Bytes -/

theorem joined_chunks (records : Array Record) :
    joined (chunks records) = (text records).toUTF8 := by
  unfold chunks text
  induction records.toList with
  | nil => rfl
  | cons record records ih =>
      rw [List.map_cons, List.map_cons, String.join_cons]
      change chunk record ++ joined (records.map chunk) = _
      rw [ih]
      exact String.toByteArray_append.symm

theorem readRecords_text (records : Array Record) :
    readRecords (text records).toUTF8.toList = .ok records := by
  rw [← joined_chunks]
  exact readRecords_joined records

theorem decode_text (path : String) (records : Array Record) :
    decode path (.ok (text records).toUTF8) = .ok records := by
  rw [decode, readRecords_text]

/-- Traces with the same text are the same, since reading the text gives both. -/
theorem text_injective : Function.Injective text := by
  intro first second same
  have read := readRecords_text first
  rw [same, readRecords_text second] at read
  cases read
  rfl

/-! ### Writing and reading -/

/-- A trace can be written, and what was written is that trace. -/
structure Lossless (records : Array Record) : Prop where
  /-- A sink with room for the text takes it. -/
  taken : ∀ (capacity : Nat) (sink : Sink), sink.Fits (text records).utf8ByteSize →
    ∃ after, writeRecords capacity sink records = (.ok (), after)
  /-- Whatever the sink, success means that it has taken the whole text. -/
  whole : ∀ (capacity : Nat) (sink after : Sink),
    writeRecords capacity sink records = (.ok (), after) →
      after.taken = sink.taken ++ (text records).toUTF8
  /-- A file that can be written holds the text afterwards, and its records are these. -/
  kept : ∀ (tree : FileTree) (path : String) (place : Place), tree.NoDevice path →
    tree.placeForFile path = .ok place →
      ∃ after, tree.write path (chunks records) = (.ok (), after) ∧
        after.read path = .ok (text records).toUTF8 ∧ decode path (after.read path) = .ok records
  /-- The text reads as the records it was made of. -/
  read : ∀ path : String, decode path (.ok (text records).toUTF8) = .ok records
  /-- The text has a line for each record, and nothing behind the last one. -/
  lines : (text records).toList.splitOn '\n' = records.toList.map Record.line ++ [[]]
  /-- No other records have this text. -/
  unique : ∀ others : Array Record, text others = text records → others = records

/-- Every trace survives being written and read. -/
theorem lossless (records : Array Record) : Lossless records := by
  constructor
  · intro capacity sink fits
    have room : sink.Fits (joined (chunks records)).size := by
      rw [joined_chunks]
      exact fits
    obtain ⟨after, written, -⟩ := BufferedWriter.transfer_of_fits capacity room
    exact ⟨after, written⟩
  · intro capacity sink after written
    rw [← joined_chunks]
    exact BufferedWriter.transfer_of_ok written
  · intro tree path place noDevice found
    have written := FileTree.write_of_placeForFile noDevice found (chunks records)
    rw [joined_chunks] at written
    have content := FileTree.read_write noDevice written
    rw [joined_chunks] at content
    refine ⟨_, written, content, ?_⟩
    rw [content]
    exact decode_text path records
  · intro path
    exact decode_text path records
  · exact splitOn_text records
  · intro others same
    exact text_injective same

/-- The greatest address survives the way through a file. -/
theorem lossless_greatest :
    let records : Array Record := #[⟨.write, 0xFFFFFFFFFFFFFFFF⟩, ⟨.read, 0⟩]
    text records = "1 18446744073709551615\n0 0\n" ∧
      ∃ after, (FileTree.fresh ["work"]).write "trace.out" (chunks records) = (.ok (), after) ∧
        decode "trace.out" (after.read "trace.out") = .ok records := by
  intro records
  have found : (FileTree.fresh ["work"]).placeForFile "trace.out" = .ok ["work", "trace.out"] := by
    decide +kernel
  have writable := FileTree.writable_of_vacant found rfl
  obtain ⟨after, written, -, read⟩ := (lossless records).kept _ _ _ writable.noDevice found
  exact ⟨by decide +kernel, after, written, read⟩

/-! ### Sinks that fill up -/

/-- What writing a trace comes to when the sink has already taken some bytes and
has room for `limit` more. -/
structure Reported (records : Array Record) (limit : Nat) (taken : ByteArray) (refusal : IoError)
    (outcome : Except IoError Unit × Sink) : Prop where
  /-- Success means that the whole text fits; otherwise the sink's error is given back. -/
  result : outcome.1 = if (text records).utf8ByteSize ≤ limit then .ok () else .error refusal
  /-- In either case the sink has taken as much of the text as fits, from its beginning. -/
  taken : outcome.2.taken =
    taken ++ (text records).toUTF8.extract 0 (min limit (text records).utf8ByteSize)

/-- Whatever the buffer, no trace is cut short without a word.  It does not matter
in which pieces the text is handed to the writer. -/
theorem short_writes_reported (records : Array Record) (capacity limit : Nat) (taken : ByteArray)
    (refusal : IoError) :
    let sink : Sink := { taken, room := some limit, refusal }
    Reported records limit taken refusal (writeRecords capacity sink records) ∧
      ∀ pieces : List ByteArray, joined pieces = (text records).toUTF8 →
        Reported records limit taken refusal (BufferedWriter.transfer capacity sink pieces) := by
  intro sink
  have pieceByPiece (pieces : List ByteArray) (whole : joined pieces = (text records).toUTF8) :
      Reported records limit taken refusal (BufferedWriter.transfer capacity sink pieces) := by
    obtain ⟨after, transferred, held⟩ :=
      BufferedWriter.transfer_limited capacity limit taken refusal pieces
    rw [whole] at transferred held
    rw [transferred]
    exact ⟨rfl, held⟩
  exact ⟨pieceByPiece (chunks records) (joined_chunks records), pieceByPiece⟩

/-- A line that breaks off inside its address, written field by field through a
buffer of three bytes. -/
theorem short_writes_reported_inside_address :
    let records : Array Record := #[⟨.write, 128⟩, ⟨.read, 7⟩]
    let pieces := ["1", " ", "128", "\n", "0", " ", "7", "\n"].map String.toUTF8
    joined pieces = (text records).toUTF8 ∧
      (BufferedWriter.transfer 3 { room := some 4 } pieces).1 = .error .noSpace ∧
      (BufferedWriter.transfer 3 { room := some 4 } pieces).2.taken = "1 12".toUTF8 := by
  intro records pieces
  have whole : joined pieces = (text records).toUTF8 := by decide +kernel
  have reported := (short_writes_reported records 3 4 .empty .noSpace).2 pieces whole
  refine ⟨whole, reported.result.trans ?_, reported.taken.trans ?_⟩
  · decide +kernel
  · decide +kernel

end AccessTrace.TraceFile
