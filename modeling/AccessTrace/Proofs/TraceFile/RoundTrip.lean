/-
Module: AccessTrace.Proofs.TraceFile.RoundTrip
Purpose: The lines of a trace read back as its records.
Main exports:
  TraceFile.encoded, TraceFile.lines_joined, TraceFile.readRecords_joined
-/
import Mathlib
import AccessTrace.Proofs.Storage.Buffered
import AccessTrace.Proofs.TraceFile.Line
import AccessTrace.TraceFile

namespace AccessTrace

open AccessTrace.Text

/-! ### Bytes as lists -/

theorem toList_loop_eq (bytes : ByteArray) (i : Nat) (done : List UInt8) :
    ByteArray.toList.loop bytes i done = done.reverse ++ bytes.data.toList.drop i := by
  induction i, done using ByteArray.toList.loop.induct bytes with
  | case1 i done inside ih =>
      have inside' : i < bytes.data.toList.length := by simpa using inside
      rw [ByteArray.toList.loop, if_pos inside, ih, List.drop_eq_getElem_cons inside']
      simp [ByteArray.get!, inside]
  | case2 i done outside =>
      have outside' : bytes.data.toList.length ≤ i := by simpa using outside
      rw [ByteArray.toList.loop, if_neg outside, List.drop_eq_nil_of_le outside', List.append_nil]

theorem toList_eq_data (bytes : ByteArray) : bytes.toList = bytes.data.toList := by
  rw [ByteArray.toList, toList_loop_eq]
  rfl

theorem toList_append (first second : ByteArray) :
    (first ++ second).toList = first.toList ++ second.toList := by
  simp [toList_eq_data]

theorem toByteArray_toList (bytes : ByteArray) : bytes.toList.toByteArray = bytes := by
  rw [toList_eq_data]
  apply ByteArray.ext
  simp

theorem toList_joined (chunks : List ByteArray) :
    (joined chunks).toList = chunks.flatMap ByteArray.toList := by
  induction chunks with
  | nil => exact ByteArray.toList_empty
  | cons chunk chunks ih =>
      rw [List.flatMap_cons, ← ih]
      exact toList_append chunk (joined chunks)

namespace TraceFile

/-- The bytes of a text. -/
def encoded (text : List Char) : List UInt8 :=
  (String.ofList text).toUTF8.toList

theorem lineText?_encoded (text : List Char) :
    lineText? (encoded text) = some (String.ofList text) := by
  rw [lineText?, encoded, toByteArray_toList]
  exact dif_pos (String.ofList text).isValidUTF8

theorem encoded_append (first second : List Char) :
    encoded (first ++ second) = encoded first ++ encoded second := by
  simp [encoded, ← toList_append]

/-- A character of seven bits is one byte, its number. -/
theorem encoded_singleton {c : Char} (plain : c.toNat < 128) :
    encoded [c] = [UInt8.ofNat c.toNat] := by
  have small : c.val.toNat ≤ 127 := Nat.le_of_lt_succ plain
  have bytes : String.utf8EncodeChar c = [UInt8.ofNat c.toNat] := by
    unfold String.utf8EncodeChar
    exact if_pos small
  rw [encoded, toList_eq_data]
  simp [List.utf8Encode_singleton, bytes]

theorem encoded_eq_map {text : List Char} (plain : ∀ c ∈ text, c.toNat < 128) :
    encoded text = text.map fun c => UInt8.ofNat c.toNat := by
  induction text with
  | nil => exact ByteArray.toList_empty
  | cons c text ih =>
      obtain ⟨first, others⟩ := List.forall_mem_cons.1 plain
      rw [← List.singleton_append, encoded_append, encoded_singleton first, ih others]
      rfl

/-! ### Lines -/

theorem linesFrom_append {line : List UInt8} (solid : ∀ byte ∈ line, byte ≠ 10)
    (done : Array (List UInt8)) (reversed rest : List UInt8) :
    linesFrom done reversed (line ++ 10 :: rest) =
      linesFrom (done.push (dropReturn (line.reverse ++ reversed)).reverse) [] rest := by
  induction line generalizing reversed with
  | nil => rfl
  | cons byte line ih =>
      obtain ⟨first, others⟩ := List.forall_mem_cons.1 solid
      rw [List.cons_append, linesFrom, ih others]
      · simp
      · exact first

theorem dropReturn_of_not_mem {reversed : List UInt8} (noReturn : (13 : UInt8) ∉ reversed) :
    dropReturn reversed = reversed := by
  unfold dropReturn
  split
  · exact absurd List.mem_cons_self noReturn
  · rfl

/-- The bytes of a record's line stand for digits and spaces, so that none of
them ends a line. -/
theorem byte_of_line {record : Record} {byte : UInt8} (member : byte ∈ encoded record.line) :
    byte ≠ 10 ∧ byte ≠ 13 := by
  have range {c : Char} (inLine : c ∈ record.line) : 32 ≤ c.toNat ∧ c.toNat ≤ 57 := by
    rcases Record.plain_of_mem_line inLine with space | digit
    · rw [space]
      decide
    · simp only [Char.isDigit, Bool.and_eq_true, decide_eq_true_eq, ge_iff_le,
        UInt32.le_iff_toNat_le] at digit
      exact ⟨(by decide : 32 ≤ 48).trans digit.1, digit.2⟩
  rw [encoded_eq_map fun c inLine => (range inLine).2.trans_lt (by decide)] at member
  obtain ⟨c, inLine, rfl⟩ := List.mem_map.1 member
  obtain ⟨least, most⟩ := range inLine
  have value : (UInt8.ofNat c.toNat).toNat = c.toNat :=
    UInt8.toNat_ofNat_of_lt' (most.trans_lt (by decide))
  constructor
  · intro same
    rw [same] at value
    exact absurd (value ▸ least) (by decide)
  · intro same
    rw [same] at value
    exact absurd (value ▸ least) (by decide)

theorem toList_chunk (record : Record) :
    (chunk record).toList = encoded record.line ++ [10] := by
  change encoded (record.line ++ ['\n']) = _
  rw [encoded_append, encoded_singleton (by decide)]
  rfl

/-- The lines of what was written are the lines of the records. -/
theorem lines_joined (records : List Record) :
    lines (joined (records.map chunk)).toList = records.map fun r => encoded r.line := by
  have following (done : Array (List UInt8)) :
      linesFrom done [] ((records.map chunk).flatMap ByteArray.toList) =
        done ++ records.map fun r => encoded r.line := by
    induction records generalizing done with
    | nil => simp [linesFrom]
    | cons record records ih =>
        have solid : ∀ byte ∈ encoded record.line, byte ≠ 10 := fun byte member =>
          (byte_of_line member).1
        have noReturn : (13 : UInt8) ∉ (encoded record.line).reverse := by
          intro member
          exact (byte_of_line (List.mem_reverse.1 member)).2 rfl
        rw [List.map_cons, List.flatMap_cons, toList_chunk, List.append_assoc,
          List.singleton_append, linesFrom_append solid, List.append_nil,
          dropReturn_of_not_mem noReturn, List.reverse_reverse, ih]
        simp
  rw [lines, toList_joined, following]
  simp

/-! ### Records -/

/-- Reading the lines of records gives the records. -/
theorem readFrom_lines (records : List Record) (number : Nat) (done : Array Record) :
    readFrom number done (records.map fun r => encoded r.line) = .ok (done ++ records) := by
  induction records generalizing number done with
  | nil => simp [readFrom]
  | cons record records ih =>
      rw [List.map_cons, readFrom, lineText?_encoded]
      simp only [String.toList_ofList, Record.isBlankText_line, Record.parse_line]
      rw [if_neg Bool.false_ne_true, ih]
      simp

/-- A trace that was written reads back as it was. -/
theorem readRecords_joined (records : Array Record) :
    readRecords (joined (chunks records)).toList = .ok records := by
  rw [readRecords, chunks, lines_joined, readFrom_lines]
  simp

end TraceFile
end AccessTrace
