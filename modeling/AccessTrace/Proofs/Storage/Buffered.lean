/-
Module: AccessTrace.Proofs.Storage.Buffered
Purpose: What a buffered writer hands on: all of it where it succeeds, and it succeeds where there
  is room.
Main exports:
  joined, Sink.Fits, BufferedWriter.bytes, BufferedWriter.transfer_of_ok,
  BufferedWriter.transfer_of_fits
-/
import Mathlib
import AccessTrace.Storage.Buffered

namespace AccessTrace

/-!
A writer stands for the bytes that its sink has taken and those it still holds.
A step that succeeds adds its chunk to them, whatever the sink is like.  That
the step succeeds is another matter, and follows from room in the sink.
-/

/-- The bytes of chunks, one after the other. -/
def joined (chunks : List ByteArray) : ByteArray :=
  chunks.foldr (· ++ ·) .empty

theorem joined_singleton (chunk : ByteArray) : joined [chunk] = chunk :=
  ByteArray.append_empty

namespace Sink

/-- A sink takes so many bytes and refuses none of them. -/
def Fits (sink : Sink) (size : Nat) : Prop :=
  ∀ room, sink.room = some room → size ≤ room

theorem fits_of_no_limit {sink : Sink} (noLimit : sink.room = none) (size : Nat) :
    sink.Fits size := by
  intro room limit
  rw [noLimit] at limit
  cases limit

/-- A sink takes a first part of what it is offered. -/
theorem offer_taken (sink : Sink) (chunk : ByteArray) :
    ∃ count after, sink.offer chunk = (count, after) ∧ count ≤ chunk.size ∧
      after.taken = sink.taken ++ chunk.extract 0 count := by
  obtain ⟨taken, room, refusal⟩ := sink
  cases room with
  | none =>
      refine ⟨chunk.size, _, rfl, le_rfl, ?_⟩
      rw [ByteArray.extract_zero_size]
  | some room =>
      exact ⟨_, _, rfl, Nat.min_le_right _ _, rfl⟩

/-- A chunk that fits is taken whole, and what fits beside it still does. -/
theorem offer_of_fits {sink : Sink} {chunk : ByteArray} {more : Nat}
    (fits : sink.Fits (chunk.size + more)) :
    ∃ after, sink.offer chunk = (chunk.size, after) ∧ after.Fits more := by
  obtain ⟨taken, room, refusal⟩ := sink
  cases room with
  | none =>
      exact ⟨_, rfl, fits_of_no_limit rfl more⟩
  | some room =>
      have enough : chunk.size + more ≤ room := fits room rfl
      have whole : min room chunk.size = chunk.size := by omega
      refine ⟨{ taken := taken ++ chunk, room := some (room - chunk.size), refusal }, ?_, ?_⟩
      · simp only [offer, whole, ByteArray.extract_zero_size]
      · intro left same
        cases same
        omega

end Sink

namespace BufferedWriter

/-- All that has been given to a writer and not refused. -/
def bytes (writer : BufferedWriter) : ByteArray :=
  writer.sink.taken ++ writer.held

/-! ### What success means -/

section
variable {writer next : BufferedWriter}

/-- A writer that could hand on what it held holds nothing any more. -/
theorem flush_of_ok (flushed : writer.flush = (.ok (), next)) :
    next.held = .empty ∧ next.capacity = writer.capacity ∧ next.bytes = writer.bytes := by
  obtain ⟨count, after, offered, most, taken⟩ := writer.sink.offer_taken writer.held
  rw [flush, offered] at flushed
  simp only [Prod.mk.injEq] at flushed
  obtain ⟨result, rfl⟩ := flushed
  split at result
  · rename_i none
    have empty : writer.held.extract count writer.held.size = .empty := by
      rw [← ByteArray.size_eq_zero_iff]
      simpa [ByteArray.isEmpty] using none
    have all : count = writer.held.size := by
      rw [ByteArray.extract_eq_empty_iff] at empty
      omega
    refine ⟨empty, rfl, ?_⟩
    rw [bytes, bytes, taken, empty, all, ByteArray.extract_zero_size, ByteArray.append_empty]
  · cases result

/-- A chunk is taken into the buffer or handed on; the second only when nothing
is held that should go before it. -/
theorem accept_of_ok {chunk : ByteArray} (held : writer.held.size ≤ writer.capacity)
    (beside : writer.held = .empty ∨ writer.held.size + chunk.size ≤ writer.capacity)
    (accepted : writer.accept chunk = (.ok (), next)) :
    next.held.size ≤ next.capacity ∧ next.bytes = writer.bytes ++ chunk := by
  unfold accept at accepted
  split at accepted
  · rename_i large
    have nothing : writer.held = .empty := by
      rcases beside with nothing | fits
      · exact nothing
      · rw [← ByteArray.size_eq_zero_iff]
        omega
    obtain ⟨count, after, offered, most, taken⟩ := writer.sink.offer_taken chunk
    rw [offered] at accepted
    simp only [Prod.mk.injEq] at accepted
    obtain ⟨result, rfl⟩ := accepted
    split at result
    · rename_i all
      refine ⟨held, ?_⟩
      rw [bytes, bytes, taken, all, nothing, ByteArray.extract_zero_size, ByteArray.append_empty,
        ByteArray.append_empty]
    · cases result
  · rename_i small
    cases accepted
    refine ⟨?_, ByteArray.append_assoc.symm⟩
    change (writer.held ++ chunk).size ≤ writer.capacity
    rw [ByteArray.size_append]
    rcases beside with nothing | fits
    · rw [nothing, ByteArray.size_empty]
      omega
    · exact fits

theorem write_of_ok {chunk : ByteArray} (held : writer.held.size ≤ writer.capacity)
    (written : writer.write chunk = (.ok (), next)) :
    next.held.size ≤ next.capacity ∧ next.bytes = writer.bytes ++ chunk := by
  unfold write spare at written
  split at written
  · rename_i small
    cases written
    refine ⟨?_, ByteArray.append_assoc.symm⟩
    change (writer.held ++ chunk).size ≤ writer.capacity
    rw [ByteArray.size_append]
    omega
  · split at written
    · split at written
      · rename_i between flushed
        obtain ⟨nothing, -, kept⟩ := flush_of_ok flushed
        have room : between.held.size ≤ between.capacity := by
          rw [nothing]
          exact Nat.zero_le _
        rw [← kept]
        exact accept_of_ok room (.inl nothing) written
      · cases written
    · have beside : writer.held.size + chunk.size ≤ writer.capacity := by omega
      exact accept_of_ok held (.inr beside) written

end

/-- Chunks that were all written stand one after the other in the sink. -/
theorem writeAll_of_ok {chunks : List ByteArray} {writer next : BufferedWriter}
    (held : writer.held.size ≤ writer.capacity)
    (written : writeAll chunks writer = (.ok (), next)) :
    next.held = .empty ∧ next.bytes = writer.bytes ++ joined chunks := by
  induction chunks generalizing writer with
  | nil =>
      obtain ⟨nothing, -, kept⟩ := flush_of_ok written
      exact ⟨nothing, kept.trans ByteArray.append_empty.symm⟩
  | cons chunk chunks ih =>
      rw [writeAll] at written
      split at written
      · rename_i between first
        obtain ⟨held, kept⟩ := write_of_ok held first
        obtain ⟨nothing, bytes⟩ := ih held written
        refine ⟨nothing, ?_⟩
        rw [bytes, kept, ByteArray.append_assoc]
        rfl
      · cases written

/-- Writing that succeeds has given the sink all chunks. -/
theorem transfer_of_ok {capacity : Nat} {sink after : Sink} {chunks : List ByteArray}
    (transferred : transfer capacity sink chunks = (.ok (), after)) :
    after.taken = sink.taken ++ joined chunks := by
  unfold transfer at transferred
  cases all : writeAll chunks { sink, capacity } with
  | mk result writer =>
      rw [all] at transferred
      simp only [Prod.mk.injEq] at transferred
      obtain ⟨rfl, rfl⟩ := transferred
      obtain ⟨nothing, bytes⟩ := writeAll_of_ok (Nat.zero_le _) all
      rw [BufferedWriter.bytes, BufferedWriter.bytes, nothing, ByteArray.append_empty,
        ByteArray.append_empty] at bytes
      -- The writer holds nothing, so that ending it hands on nothing.
      obtain ⟨count, closed, offered, most, taken⟩ := writer.sink.offer_taken writer.held
      rw [close, flush, offered]
      rw [nothing] at most taken
      rw [taken, bytes, Nat.le_zero.1 most, ByteArray.extract_same, ByteArray.append_empty]

/-! ### Where there is room -/

/-- A writer that holds no more than it may, and whose sink has room for that
and for some bytes more. -/
structure Ready (writer : BufferedWriter) (more : Nat) : Prop where
  held : writer.held.size ≤ writer.capacity
  room : writer.sink.Fits (writer.held.size + more)

theorem flush_of_ready {writer : BufferedWriter} {more : Nat} (ready : writer.Ready more) :
    ∃ next, writer.flush = (.ok (), next) ∧ next.held = .empty ∧ next.Ready more := by
  obtain ⟨after, offered, room⟩ := Sink.offer_of_fits ready.room
  refine ⟨{ writer with sink := after, held := .empty }, ?_, rfl, ?_⟩
  · rw [flush, offered]
    simp [ByteArray.extract_same]
    rfl
  · constructor
    · exact Nat.zero_le _
    · rw [ByteArray.size_empty, Nat.zero_add]
      exact room

theorem accept_of_ready {writer : BufferedWriter} {chunk : ByteArray} {more : Nat}
    (ready : writer.Ready (chunk.size + more))
    (beside : writer.held = .empty ∨ writer.held.size + chunk.size ≤ writer.capacity) :
    ∃ next, writer.accept chunk = (.ok (), next) ∧ next.sink.Fits (next.held.size + more) := by
  have room := ready.room
  unfold accept
  split
  · rename_i large
    have nothing : writer.held.size = 0 := by
      rcases beside with nothing | fits
      · rw [nothing, ByteArray.size_empty]
      · omega
    rw [nothing, Nat.zero_add] at room
    obtain ⟨after, offered, room⟩ := Sink.offer_of_fits room
    refine ⟨{ writer with sink := after }, ?_, ?_⟩
    · rw [offered]
      simp
    · rw [nothing, Nat.zero_add]
      exact room
  · refine ⟨_, rfl, ?_⟩
    change writer.sink.Fits ((writer.held ++ chunk).size + more)
    rw [ByteArray.size_append, Nat.add_assoc]
    exact room

theorem write_of_ready {writer : BufferedWriter} {chunk : ByteArray} {more : Nat}
    (ready : writer.Ready (chunk.size + more)) :
    ∃ next, writer.write chunk = (.ok (), next) ∧ next.Ready more := by
  have result : ∃ next, writer.write chunk = (.ok (), next) ∧
      next.sink.Fits (next.held.size + more) := by
    unfold write spare
    split
    · refine ⟨_, rfl, ?_⟩
      change writer.sink.Fits ((writer.held ++ chunk).size + more)
      rw [ByteArray.size_append, Nat.add_assoc]
      exact ready.room
    · split
      · obtain ⟨flushed, result, empty, ready⟩ := flush_of_ready ready
        rw [result]
        exact accept_of_ready ready (.inl empty)
      · apply accept_of_ready ready
        have held := ready.held
        right
        omega
  obtain ⟨next, written, room⟩ := result
  exact ⟨next, written, (write_of_ok ready.held written).1, room⟩

/-- Where there is room for all chunks, none is refused. -/
theorem writeAll_of_ready {chunks : List ByteArray} {writer : BufferedWriter}
    (ready : writer.Ready (joined chunks).size) :
    ∃ next, writeAll chunks writer = (.ok (), next) := by
  induction chunks generalizing writer with
  | nil =>
      obtain ⟨next, result, -⟩ := flush_of_ready ready
      exact ⟨next, result⟩
  | cons chunk chunks ih =>
      have sizes : (joined (chunk :: chunks)).size = chunk.size + (joined chunks).size :=
        ByteArray.size_append
      rw [sizes] at ready
      obtain ⟨written, result, ready⟩ := write_of_ready ready
      obtain ⟨next, results⟩ := ih ready
      refine ⟨next, ?_⟩
      rw [writeAll, result]
      exact results

/-- A sink with room for all chunks takes all of them. -/
theorem transfer_of_fits (capacity : Nat) {sink : Sink} {chunks : List ByteArray}
    (fits : sink.Fits (joined chunks).size) :
    ∃ after, transfer capacity sink chunks = (.ok (), after) ∧
      after.taken = sink.taken ++ joined chunks := by
  have ready : Ready { sink, capacity } (joined chunks).size := by
    constructor
    · exact Nat.zero_le _
    · rw [ByteArray.size_empty, Nat.zero_add]
      exact fits
  obtain ⟨next, result⟩ := writeAll_of_ready ready
  have transferred : transfer capacity sink chunks = (.ok (), next.close) := by
    rw [transfer, result]
  exact ⟨next.close, transferred, transfer_of_ok transferred⟩

end BufferedWriter
end AccessTrace
