/-
Module: AccessTrace.Proofs.Storage.Limited
Purpose: Writing to a sink that fills up: the writer says so, and the sink holds the beginning of
  what was written.
Main exports:
  Sink.extent?, Sink.Full, BufferedWriter.Stopped, BufferedWriter.transfer_of_error,
  BufferedWriter.transfer_limited
-/
import Mathlib
import AccessTrace.Proofs.Storage.Buffered

namespace AccessTrace

/-!
What a sink holds and what it has room for make up its extent, which no write
changes.  A writer fails only where a sink did not take all that it was offered.
Such a sink is full: it takes nothing any more, and what it holds is where the
bytes begin that the writer was given.
-/

namespace Sink

/-- How many bytes a sink can hold in all. -/
def extent? (sink : Sink) : Option Nat :=
  sink.room.map (sink.taken.size + ·)

/-- A sink that takes nothing any more. -/
def Full (sink : Sink) : Prop :=
  sink.room = some 0

/-- A sink before and after it was written to. -/
structure Continues (before after : Sink) : Prop where
  extent : after.extent? = before.extent?
  refusal : after.refusal = before.refusal

theorem Continues.refl (sink : Sink) : sink.Continues sink where
  extent := rfl
  refusal := rfl

theorem Continues.trans {first second third : Sink} (one : first.Continues second)
    (two : second.Continues third) : first.Continues third where
  extent := two.extent.trans one.extent
  refusal := two.refusal.trans one.refusal

theorem continues_offer (sink : Sink) (chunk : ByteArray) :
    sink.Continues (sink.offer chunk).2 := by
  obtain ⟨taken, room, refusal⟩ := sink
  cases room with
  | none => exact ⟨rfl, rfl⟩
  | some room =>
      refine ⟨?_, rfl⟩
      simp only [offer, extent?, Option.map_some, Option.some.injEq, ByteArray.size_append,
        ByteArray.size_extract]
      omega

/-- A sink that has not taken all of a chunk is full. -/
theorem full_of_offer {sink : Sink} {chunk : ByteArray}
    (short : (sink.offer chunk).1 ≠ chunk.size) : (sink.offer chunk).2.Full := by
  obtain ⟨taken, room, refusal⟩ := sink
  cases room with
  | none => exact absurd rfl short
  | some room =>
      simp only [offer, Full, Option.some.injEq] at short ⊢
      omega

/-- What a sink has taken is where the bytes begin that it was offered. -/
theorem exists_rest_of_offer (sink : Sink) (chunk : ByteArray) :
    ∃ rest, (sink.offer chunk).2.taken ++ rest = sink.taken ++ chunk := by
  obtain ⟨count, after, offered, most, taken⟩ := sink.offer_taken chunk
  refine ⟨chunk.extract count chunk.size, ?_⟩
  rw [offered, taken, ByteArray.append_assoc, ByteArray.extract_append_extract, Nat.zero_min,
    Nat.max_eq_right most, ByteArray.extract_zero_size]

/-- A sink that has not taken all of a chunk is full of the first of its bytes. -/
theorem full_of_short {sink after : Sink} {chunk : ByteArray} {count : Nat}
    (offered : sink.offer chunk = (count, after)) (short : count ≠ chunk.size) :
    after.Full ∧ ∃ rest, after.taken ++ rest = sink.taken ++ chunk := by
  have full : (sink.offer chunk).1 ≠ chunk.size → (sink.offer chunk).2.Full := full_of_offer
  have begins := sink.exists_rest_of_offer chunk
  rw [offered] at full begins
  exact ⟨full short, begins⟩

theorem Full.offer {sink : Sink} (full : sink.Full) (chunk : ByteArray) :
    (sink.offer chunk).2 = sink := by
  obtain ⟨taken, room, refusal⟩ := sink
  cases full
  simp only [Sink.offer, Nat.zero_min, Nat.sub_zero, ByteArray.extract_same,
    ByteArray.append_empty]

end Sink

namespace BufferedWriter

/-! ### What no write changes -/

theorem continues_flush (writer : BufferedWriter) :
    writer.sink.Continues writer.flush.2.sink :=
  writer.sink.continues_offer writer.held

theorem continues_accept (writer : BufferedWriter) (chunk : ByteArray) :
    writer.sink.Continues (writer.accept chunk).2.sink := by
  unfold accept
  split
  · exact writer.sink.continues_offer chunk
  · exact .refl _

theorem continues_write (writer : BufferedWriter) (chunk : ByteArray) :
    writer.sink.Continues (writer.write chunk).2.sink := by
  unfold write
  split
  · exact .refl _
  · split
    · have flushed := writer.continues_flush
      split
      · rename_i next result
        rw [result] at flushed
        exact flushed.trans (next.continues_accept chunk)
      · rename_i result
        rw [result] at flushed
        exact flushed
    · exact writer.continues_accept chunk

theorem continues_writeAll (chunks : List ByteArray) (writer : BufferedWriter) :
    writer.sink.Continues (writeAll chunks writer).2.sink := by
  induction chunks generalizing writer with
  | nil => exact writer.continues_flush
  | cons chunk chunks ih =>
      have written := writer.continues_write chunk
      rw [writeAll]
      split
      · rename_i next result
        rw [result] at written
        exact written.trans (ih next)
      · rename_i result
        rw [result] at written
        exact written

theorem continues_transfer (capacity : Nat) (sink : Sink) (chunks : List ByteArray) :
    sink.Continues (transfer capacity sink chunks).2 :=
  (continues_writeAll chunks { sink, capacity }).trans (continues_flush _)

/-! ### What failure means -/

/-- A writer that has failed, when it was given so many bytes in all.  Its error is
that of its sink, which is full of the first of them. -/
structure Stopped (writer : BufferedWriter) (error : IoError) (given : ByteArray) : Prop where
  error_eq : error = writer.sink.refusal
  full : writer.sink.Full
  begins : ∃ rest, writer.sink.taken ++ rest = given

theorem Stopped.append {writer : BufferedWriter} {error : IoError} {given : ByteArray}
    (stopped : writer.Stopped error given) (more : ByteArray) :
    writer.Stopped error (given ++ more) := by
  obtain ⟨rest, begins⟩ := stopped.begins
  refine ⟨stopped.error_eq, stopped.full, rest ++ more, ?_⟩
  rw [← ByteArray.append_assoc, begins]

section
variable {writer next : BufferedWriter} {error : IoError}

theorem flush_of_error (flushed : writer.flush = (.error error, next)) :
    next.Stopped error writer.bytes := by
  cases offered : writer.sink.offer writer.held with
  | mk count after =>
      rw [flush, offered] at flushed
      simp only [Prod.mk.injEq] at flushed
      obtain ⟨result, rfl⟩ := flushed
      split at result
      · cases result
      · rename_i left
        cases result
        have short : count ≠ writer.held.size := by
          rintro rfl
          rw [ByteArray.extract_same] at left
          exact left rfl
        obtain ⟨full, begins⟩ := Sink.full_of_short offered short
        exact ⟨rfl, full, begins⟩

/-- A chunk is refused only where it was handed on, and nothing is held then. -/
theorem accept_of_error {chunk : ByteArray}
    (beside : writer.held = .empty ∨ writer.held.size + chunk.size ≤ writer.capacity)
    (accepted : writer.accept chunk = (.error error, next)) :
    next.Stopped error (writer.bytes ++ chunk) := by
  unfold accept at accepted
  split at accepted
  · rename_i large
    have nothing : writer.held = .empty := by
      rcases beside with nothing | fits
      · exact nothing
      · rw [← ByteArray.size_eq_zero_iff]
        omega
    cases offered : writer.sink.offer chunk with
    | mk count after =>
        rw [offered] at accepted
        simp only [Prod.mk.injEq] at accepted
        obtain ⟨result, rfl⟩ := accepted
        split at result
        · cases result
        · rename_i short
          cases result
          obtain ⟨full, begins⟩ := Sink.full_of_short offered short
          refine ⟨rfl, full, ?_⟩
          rw [bytes, nothing, ByteArray.append_empty]
          exact begins
  · cases accepted

theorem write_of_error {chunk : ByteArray} (held : writer.held.size ≤ writer.capacity)
    (written : writer.write chunk = (.error error, next)) :
    next.Stopped error (writer.bytes ++ chunk) := by
  unfold write spare at written
  split at written
  · cases written
  · split at written
    · split at written
      · rename_i between flushed
        obtain ⟨nothing, -, kept⟩ := flush_of_ok flushed
        rw [← kept]
        exact accept_of_error (.inl nothing) written
      · rename_i failure between flushed
        cases written
        exact (flush_of_error flushed).append chunk
    · have beside : writer.held.size + chunk.size ≤ writer.capacity := by omega
      exact accept_of_error (.inr beside) written

end

/-- Where one of several chunks is refused, the sink is full of the first of their bytes. -/
theorem writeAll_of_error {chunks : List ByteArray} {writer next : BufferedWriter}
    {error : IoError} (held : writer.held.size ≤ writer.capacity)
    (written : writeAll chunks writer = (.error error, next)) :
    next.Stopped error (writer.bytes ++ joined chunks) := by
  induction chunks generalizing writer with
  | nil => exact (flush_of_error written).append .empty
  | cons chunk chunks ih =>
      change next.Stopped error (writer.bytes ++ (chunk ++ joined chunks))
      rw [← ByteArray.append_assoc]
      rw [writeAll] at written
      split at written
      · rename_i between first
        obtain ⟨held, kept⟩ := write_of_ok held first
        rw [← kept]
        exact ih held written
      · rename_i failure between first
        cases written
        exact (write_of_error held first).append _

/-- Writing that fails has filled the sink.  Ending the writer adds nothing to it. -/
theorem transfer_of_error {capacity : Nat} {sink after : Sink} {chunks : List ByteArray}
    {error : IoError} (transferred : transfer capacity sink chunks = (.error error, after)) :
    error = sink.refusal ∧ after.Full ∧
      ∃ rest, after.taken ++ rest = sink.taken ++ joined chunks := by
  have refusal := (continues_transfer capacity sink chunks).refusal
  rw [transferred] at refusal
  unfold transfer at transferred
  cases all : writeAll chunks { sink, capacity } with
  | mk result writer =>
      rw [all] at transferred
      simp only [Prod.mk.injEq] at transferred
      obtain ⟨rfl, rfl⟩ := transferred
      have stopped := writeAll_of_error (Nat.zero_le _) all
      have closed : writer.close = writer.sink := stopped.full.offer writer.held
      rw [closed] at refusal ⊢
      refine ⟨stopped.error_eq.trans refusal, stopped.full, ?_⟩
      have begins := stopped.begins
      rw [bytes, ByteArray.append_empty] at begins
      exact begins

/-! ### Sinks with a limit -/

/-- What becomes of bytes for which a sink may have too little room: the writer
reports the error of the sink exactly when some of them do not fit, and the sink
holds as many of the first of them as do. -/
theorem transfer_limited (capacity limit : Nat) (taken : ByteArray) (refusal : IoError)
    (chunks : List ByteArray) :
    ∃ after, transfer capacity { taken, room := some limit, refusal } chunks =
        (if (joined chunks).size ≤ limit then .ok () else .error refusal, after) ∧
      after.taken = taken ++ (joined chunks).extract 0 (min limit (joined chunks).size) := by
  by_cases fits : (joined chunks).size ≤ limit
  · have room : Sink.Fits { taken, room := some limit, refusal } (joined chunks).size := by
      rintro room ⟨⟩
      exact fits
    obtain ⟨after, transferred, whole⟩ := transfer_of_fits capacity room
    refine ⟨after, by rw [transferred, if_pos fits], ?_⟩
    rw [whole, Nat.min_eq_right fits, ByteArray.extract_zero_size]
  · have continues := continues_transfer capacity { taken, room := some limit, refusal } chunks
    cases transferred : transfer capacity { taken, room := some limit, refusal } chunks with
    | mk result after =>
        have extent := continues.extent
        rw [transferred] at extent
        cases result with
        | ok =>
            -- A sink cannot have taken more than its extent.
            rw [Sink.extent?, transfer_of_ok transferred, ByteArray.size_append] at extent
            cases room : after.room with
            | none => simp [room, Sink.extent?] at extent
            | some room =>
                simp only [room, Sink.extent?, Option.map_some, Option.some.injEq] at extent
                omega
        | error error =>
            obtain ⟨rfl, full, rest, begins⟩ := transfer_of_error transferred
            rw [Sink.extent?, full, Sink.extent?] at extent
            simp only [Option.map_some, Option.some.injEq, Nat.add_zero] at extent
            refine ⟨after, by rw [if_neg fits], ?_⟩
            rw [Nat.min_eq_left (by omega)]
            calc after.taken
              _ = (taken ++ joined chunks).extract 0 (taken.size + limit) := by
                  rw [← begins, ByteArray.extract_append_eq_left extent.symm]
              _ = (taken ++ joined chunks).extract 0 taken.size ++
                    (taken ++ joined chunks).extract (taken.size + 0) (taken.size + limit) := by
                  rw [Nat.add_zero, ByteArray.extract_append_extract, Nat.zero_min,
                    Nat.max_eq_right (Nat.le_add_right _ _)]
              _ = taken ++ (joined chunks).extract 0 limit := by
                  rw [ByteArray.extract_append_eq_left rfl, ByteArray.extract_append_size_add]

end BufferedWriter
end AccessTrace
