/-
Module: AccessTrace.Proofs.TraceFile.Verification
Purpose: What holding a file against a report finds, and what it cannot find.
Main exports:
  ClassCounts.Fits, Report.Counts, TraceFile.compare_cases, TraceFile.verify_eq_ok_iff,
  TraceFile.Verification, TraceFile.Sensitive, TraceFile.verified_by_counts
-/
import Mathlib
import AccessTrace.Proofs.Generator.Counts
import AccessTrace.Proofs.TraceFile.Reading

namespace AccessTrace

open AccessTrace.Text

/-!
A report has four counters, and a file is held against three sums of them: the
total first, then the reads and the writes.  As long as the total fits a word,
none of the sums wraps around and the total is the sum of the other two, so that
the two counts by kind decide alone.  The addresses, the order of the records and
the form of the lines have no part in it.
-/

/-! ### The sums of a report -/

/-- All accesses together can be counted in a word. -/
def ClassCounts.Fits (counts : ClassCounts) : Prop :=
  counts.sequentialWrite.toNat + counts.sequentialRead.toNat + counts.randomWrite.toNat +
    counts.randomRead.toNat < 2 ^ 64

/-- The total is made of the reads and the writes. -/
theorem ClassCounts.Fits.toNat_total {counts : ClassCounts} (fits : counts.Fits) :
    counts.total.toNat = counts.reads.toNat + counts.writes.toNat := by
  rw [Fits] at fits
  simp only [total, reads, writes, UInt64.toNat_add]
  omega

/-- The records have as many reads and as many writes as the report says. -/
structure Report.Counts (report : Report) (records : List Record) : Prop where
  reads : Report.countKind records .read = report.emitted.reads.toNat
  writes : Report.countKind records .write = report.emitted.writes.toNat

theorem Report.Counts.length_eq {report : Report} (fits : report.emitted.Fits)
    {records : List Record} (counts : report.Counts records) :
    records.length = report.totalRecords.toNat := by
  rw [← Config.countKind_add_countKind, counts.reads, counts.writes, totalRecords,
    fits.toNat_total]

/-- Records that a report counts are told from others by their counts. -/
theorem Report.Counts.iff_countKind {report : Report} {records : List Record}
    (counts : report.Counts records) (found : List Record) :
    report.Counts found ↔ ∀ kind, Report.countKind found kind = Report.countKind records kind := by
  constructor
  · intro also kind
    cases kind with
    | read => rw [also.reads, counts.reads]
    | write => rw [also.writes, counts.writes]
  · intro same
    exact ⟨(same .read).trans counts.reads, (same .write).trans counts.writes⟩

/-- Counts by kind do not depend on the order or on the addresses. -/
theorem countKind_congr {found records : List Record}
    (same : (found.map (·.kind)).Perm (records.map (·.kind))) (kind : Kind) :
    Report.countKind found kind = Report.countKind records kind := by
  have counted (records : List Record) :
      Report.countKind records kind = (records.map (·.kind)).count kind := by
    rw [Report.countKind, List.count, List.countP_map]
    rfl
  rw [counted, counted, same.count_eq]

/-- The kind that a record does not have. -/
def Kind.other : Kind → Kind
  | .read => .write
  | .write => .read

/-- A record of the other kind is missing from the count of its own. -/
theorem countKind_other (before after : List Record) (kind : Kind) (address : UInt64) :
    Report.countKind (before ++ ⟨kind.other, address⟩ :: after) kind + 1 =
      Report.countKind (before ++ ⟨kind, address⟩ :: after) kind := by
  cases kind <;> simp [Report.countKind, Kind.other, Nat.add_assoc]

namespace TraceFile

/-! ### The messages -/

/-- What is said about a number of records that is not the expected one. -/
def countMessage (path : String) (found expected : Nat) : String :=
  path ++ " holds " ++ toString found ++ " records, expected " ++ toString expected

/-- What is said about reads and writes that are not the expected ones. -/
def splitMessage (path : String) (reads writes expectedReads expectedWrites : Nat) : String :=
  path ++ " holds " ++ toString reads ++ " reads and " ++ toString writes ++
    " writes, expected " ++ toString expectedReads ++ " and " ++ toString expectedWrites

theorem toString_eq (n : Nat) : toString n = String.ofList (Numeral.ofNat n) := rfl

/-- The two messages can be told apart: they differ behind the first number. -/
theorem countMessage_ne_splitMessage (path : String)
    (found expected reads writes expectedReads expectedWrites : Nat) :
    countMessage path found expected ≠
      splitMessage path reads writes expectedReads expectedWrites := by
  intro same
  have texts := congrArg String.toList same
  simp only [countMessage, splitMessage, String.toList_append, List.append_assoc,
    List.append_cancel_left_eq] at texts
  have behind (n : Nat) (rest : List Char) :
      ((toString n).toList ++ rest).dropWhile Char.isDigit = rest.dropWhile Char.isDigit := by
    rw [toString_eq, String.toList_ofList]
    exact List.dropWhile_append_of_pos fun c member => Numeral.isDigit_of_mem_ofNat member
  have rests := congrArg (List.dropWhile Char.isDigit) texts
  rw [behind, behind] at rests
  simp at rests

/-! ### The check -/

variable {path : String} {report : Report}

/-- A failure of one part is shown as that part. -/
theorem message_of_parts {failure : Failure} {text : String} (single : failure.parts = [text]) :
    failure.message = text := by
  simp [Failure.message, single]

theorem message_recordCount (found expected : Nat) :
    Failure.message { cause := .recordCount path found expected } =
      countMessage path found expected :=
  message_of_parts rfl

theorem message_kindSplit (reads writes expectedReads expectedWrites : Nat) :
    Failure.message { cause := .kindSplit path reads writes expectedReads expectedWrites } =
      splitMessage path reads writes expectedReads expectedWrites :=
  message_of_parts rfl

/-- The failure of records that are too many or too few. -/
def countFailure (path : String) (report : Report) (records : List Record) : Failure where
  cause := .recordCount path records.length report.totalRecords.toNat

/-- The failure of records that are of other kinds than the report says. -/
def splitFailure (path : String) (report : Report) (records : List Record) : Failure where
  cause := .kindSplit path (Report.countKind records .read) (Report.countKind records .write)
    report.emitted.reads.toNat report.emitted.writes.toNat

/-- Everything that holding records against a report can find. -/
theorem compare_cases (fits : report.emitted.Fits) (path : String) (records : Array Record) :
    (report.Counts records.toList ∧ compare path report records = .ok ()) ∨
      (records.toList.length ≠ report.totalRecords.toNat ∧
        compare path report records = .error (countFailure path report records.toList)) ∨
      (records.toList.length = report.totalRecords.toNat ∧ ¬report.Counts records.toList ∧
        compare path report records = .error (splitFailure path report records.toList)) := by
  by_cases counts : report.Counts records.toList
  · have size := counts.length_eq fits
    rw [Array.length_toList] at size
    exact .inl ⟨counts, by simp [compare, size, counts.reads, counts.writes]⟩
  · have split : Report.countKind records.toList .read ≠ report.emitted.reads.toNat ∨
        Report.countKind records.toList .write ≠ report.emitted.writes.toNat := by
      by_contra both
      rw [not_or, not_not, not_not] at both
      exact counts ⟨both.1, both.2⟩
    rw [Array.length_toList]
    by_cases size : records.size = report.totalRecords.toNat
    · refine .inr (.inr ⟨size, counts, ?_⟩)
      simp only [compare, size, ne_eq, not_true_eq_false, if_false]
      exact if_pos split
    · refine .inr (.inl ⟨size, ?_⟩)
      rw [countFailure, Array.length_toList]
      exact if_pos size

theorem verify_of_decode {file : Except ReadFailure ByteArray} {records : Array Record}
    (read : decode path file = .ok records) :
    verify path report file = compare path report records := by
  rw [verify, read]
  rfl

theorem verify_of_unread {file : Except ReadFailure ByteArray} {failure : Failure}
    (unread : decode path file = .error failure) :
    verify path report file = .error failure := by
  rw [verify, unread]
  rfl

theorem verify_eq_ok_iff (fits : report.emitted.Fits) (file : Except ReadFailure ByteArray) :
    verify path report file = .ok () ↔
      ∃ records, decode path file = .ok records ∧ report.Counts records.toList := by
  cases read : decode path file with
  | error failure =>
      rw [verify_of_unread read]
      exact iff_of_false nofun nofun
  | ok records =>
      rw [verify_of_decode read]
      rcases compare_cases fits path records with
        ⟨counts, passed⟩ | ⟨size, failed⟩ | ⟨-, other, failed⟩
      · exact iff_of_true passed ⟨records, rfl, counts⟩
      · rw [failed]
        refine iff_of_false nofun ?_
        rintro ⟨_, ⟨⟩, counts⟩
        exact size (counts.length_eq fits)
      · rw [failed]
        refine iff_of_false nofun ?_
        rintro ⟨_, ⟨⟩, counts⟩
        exact other counts

/-- What holding a file against a report finds. -/
structure Verification (path : String) (report : Report) (file : Except ReadFailure ByteArray) :
    Prop where
  /-- A file passes exactly if it can be read and has as many reads and writes as the report. -/
  passes : verify path report file = .ok () ↔
    ∃ records, decode path file = .ok records ∧ report.Counts records.toList
  /-- A file that cannot be read fails as reading it does. -/
  unread : ∀ failure, decode path file = .error failure → verify path report file = .error failure
  /-- What is said of a file that fails although it can be read: that the number of its records
  is another one, or else that the kinds of them are. -/
  message : ∀ records failure, decode path file = .ok records →
    verify path report file = .error failure →
      (failure.message = countMessage path records.size report.totalRecords.toNat ↔
        records.size ≠ report.totalRecords.toNat) ∧
      (failure.message = splitMessage path (Report.countKind records.toList .read)
          (Report.countKind records.toList .write) report.emitted.reads.toNat
          report.emitted.writes.toNat ↔
        records.size = report.totalRecords.toNat ∧ ¬report.Counts records.toList)

theorem verification (fits : report.emitted.Fits) (file : Except ReadFailure ByteArray) :
    Verification path report file := by
  constructor
  · exact verify_eq_ok_iff fits file
  · exact fun failure => verify_of_unread
  · intro records failure read failed
    rw [verify_of_decode read] at failed
    rw [← Array.length_toList]
    rcases compare_cases fits path records with
      ⟨-, passed⟩ | ⟨size, result⟩ | ⟨size, other, result⟩
    · rw [passed] at failed
      cases failed
    · rw [result] at failed
      cases failed
      rw [countFailure, message_recordCount]
      exact ⟨iff_of_true rfl size,
        iff_of_false (countMessage_ne_splitMessage _ _ _ _ _ _ _) fun both => size both.1⟩
    · rw [result] at failed
      cases failed
      rw [splitFailure, message_kindSplit]
      exact ⟨iff_of_false (countMessage_ne_splitMessage _ _ _ _ _ _ _).symm (not_not.2 size),
        iff_of_true rfl ⟨size, other⟩⟩

/-! ### Changes to a trace -/

/-- The file that records are written to. -/
def written (records : List Record) : Except ReadFailure ByteArray :=
  .ok (joined (chunks records.toArray))

theorem decode_written (path : String) (records : List Record) :
    decode path (written records) = .ok records.toArray := by
  rw [written, decode, readRecords_joined]

theorem verify_written_of_length_ne (fits : report.emitted.Fits) {found : List Record}
    (size : found.length ≠ report.totalRecords.toNat) :
    verify path report (written found) = .error (countFailure path report found) := by
  rw [verify_of_decode (decode_written path found)]
  rcases compare_cases fits path found.toArray with
    ⟨counts, -⟩ | ⟨-, result⟩ | ⟨same, -, -⟩
  · exact absurd (counts.length_eq fits) size
  · exact result
  · exact absurd same size

theorem verify_written_of_not_counts (fits : report.emitted.Fits) {found : List Record}
    (size : found.length = report.totalRecords.toNat) (other : ¬report.Counts found) :
    verify path report (written found) = .error (splitFailure path report found) := by
  rw [verify_of_decode (decode_written path found)]
  rcases compare_cases fits path found.toArray with
    ⟨counts, -⟩ | ⟨different, -⟩ | ⟨-, -, result⟩
  · exact absurd counts other
  · exact absurd size different
  · exact result

/-- Which changes to a trace are found when its file is held against its report. -/
structure Sensitive (path : String) (report : Report) (records : List Record) : Prop where
  unchanged : verify path report (written records) = .ok ()
  /-- Whatever the file has become, as long as it can be read, nothing is found exactly if both
  counts are those of the trace. -/
  changed : ∀ file found, decode path file = .ok found →
    (verify path report file = .ok () ↔
      ∀ kind, Report.countKind found.toList kind = Report.countKind records kind)
  /-- Nothing is found if the lines stand for accesses of the same kinds: in another order, at
  other addresses, written in another way, with blank lines between them. -/
  harmless : ∀ (content : ByteArray) (found : List (Option Record)),
    List.Forall₂ Stands (lines content.toList) found →
      (found.reduceOption.map (·.kind)).Perm (records.map (·.kind)) →
        verify path report (.ok content) = .ok ()
  dropped : ∀ before record after, records = before ++ record :: after →
    verify path report (written (before ++ after)) =
      .error (countFailure path report (before ++ after))
  added : ∀ before record after, records = before ++ after →
    verify path report (written (before ++ record :: after)) =
      .error (countFailure path report (before ++ record :: after))
  flipped : ∀ before kind address after, records = before ++ ⟨kind, address⟩ :: after →
    verify path report (written (before ++ ⟨kind.other, address⟩ :: after)) =
      .error (splitFailure path report (before ++ ⟨kind.other, address⟩ :: after))

theorem sensitive (fits : report.emitted.Fits) {records : List Record}
    (counts : report.Counts records) (path : String) : Sensitive path report records := by
  have changed (file : Except ReadFailure ByteArray) (found : Array Record)
      (read : decode path file = .ok found) : verify path report file = .ok () ↔
        ∀ kind, Report.countKind found.toList kind = Report.countKind records kind := by
    rw [verify_eq_ok_iff fits, read, ← counts.iff_countKind]
    simp
  have total := counts.length_eq fits
  constructor
  · exact (changed _ _ (decode_written path records)).2 fun _ => rfl
  · exact changed
  · intro content found all same
    exact (changed _ _ (decode_of_all all path)).2 (countKind_congr same)
  · rintro before record after rfl
    apply verify_written_of_length_ne fits
    rw [← total]
    simp
  · rintro before record after rfl
    apply verify_written_of_length_ne fits
    rw [← total]
    simp
  · rintro before kind address after rfl
    apply verify_written_of_not_counts fits
    · rw [← total]
      simp
    · intro also
      have same := (counts.iff_countKind _).1 also kind
      have one := countKind_other before after kind address
      omega

/-- A file is held against a report by its counts of reads and writes. -/
theorem verified_by_counts (path : String) (report : Report) (fits : report.emitted.Fits) :
    (∀ file, Verification path report file) ∧
      ∀ records, report.Counts records → Sensitive path report records :=
  ⟨verification fits, fun _ counts => sensitive fits counts path⟩

/-- Another spelling, order and choice of addresses passes; a single flipped kind does not. -/
theorem verified_by_counts_respelled :
    let report : Report := { planned := ⟨1, 1, 1, 0⟩, emitted := ⟨1, 1, 1, 0⟩ }
    report.emitted.Fits ∧
      report.Counts [⟨.write, 0⟩, ⟨.read, 8⟩, ⟨.write, 4⟩] ∧
      verify "trace.out" report (.ok " 1\t+7\r\n \n0 0099\n1 4".toUTF8) = .ok () ∧
      ∃ failure,
        verify "trace.out" report (written [⟨.read, 0⟩, ⟨.read, 8⟩, ⟨.write, 4⟩]) =
          .error failure ∧
        failure.message = "trace.out holds 2 reads and 1 writes, expected 1 and 2" := by
  intro report
  have fits : report.emitted.Fits := by unfold ClassCounts.Fits; decide
  have counts : report.Counts [⟨.write, 0⟩, ⟨.read, 8⟩, ⟨.write, 4⟩] := ⟨rfl, rfl⟩
  obtain ⟨verification, sensitive⟩ := verified_by_counts "trace.out" report fits
  have read : decode "trace.out" (.ok " 1\t+7\r\n \n0 0099\n1 4".toUTF8) =
      .ok #[⟨.write, 7⟩, ⟨.read, 99⟩, ⟨.write, 4⟩] := by decide +kernel
  exact ⟨fits, counts, (verification _).passes.2 ⟨_, read, rfl, rfl⟩, _,
    (sensitive _ counts).flipped [] .write 0 _ rfl, by decide +kernel⟩

end TraceFile
end AccessTrace
