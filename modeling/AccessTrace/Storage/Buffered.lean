/-
Module: AccessTrace.Storage.Buffered
Purpose: Writing through a buffer to a sink that may refuse bytes.
Main exports:
  Sink, Sink.offer, BufferedWriter, BufferedWriter.transfer
-/
import AccessTrace.Storage.Error

namespace AccessTrace

/-!
A sink takes bytes until its room is used up and then refuses.  A chunk that
does not fit is taken in part.  A writer in front of it collects small chunks
and hands them on together.  What the sink did not take stays with the writer,
which offers it again, and only it.
-/

/-- A place for bytes: what it has taken, and how much more it can take. -/
structure Sink where
  taken : ByteArray := .empty
  /-- How many more bytes fit; a sink without a number has no limit. -/
  room : Option Nat := none
  /-- The answer to bytes that do not fit. -/
  refusal : IoError := .noSpace

namespace Sink

/-- Gives the sink as many bytes of a chunk as fit, and says how many. -/
def offer (sink : Sink) (chunk : ByteArray) : Nat × Sink :=
  match sink.room with
  | none => (chunk.size, { sink with taken := sink.taken ++ chunk })
  | some room =>
    let count := min room chunk.size
    (count, { sink with taken := sink.taken ++ chunk.extract 0 count, room := some (room - count) })

end Sink

/-- A writer that holds back bytes until there are enough of them. -/
structure BufferedWriter where
  sink : Sink
  held : ByteArray := .empty
  capacity : Nat := 8192

namespace BufferedWriter

/-- Hands on what is held.  What the sink refuses is held further. -/
def flush (writer : BufferedWriter) : Except IoError Unit × BufferedWriter :=
  let (count, sink) := writer.sink.offer writer.held
  let held := writer.held.extract count writer.held.size
  (if held.isEmpty then .ok () else .error sink.refusal, { writer with sink, held })

/-- How many bytes still fit into the buffer. -/
def spare (writer : BufferedWriter) : Nat :=
  writer.capacity - writer.held.size

/-- Takes a chunk into the buffer, or hands it on where it is as large as the
buffer. -/
def accept (writer : BufferedWriter) (chunk : ByteArray) : Except IoError Unit × BufferedWriter :=
  if writer.capacity ≤ chunk.size then
    let (count, sink) := writer.sink.offer chunk
    (if count = chunk.size then .ok () else .error sink.refusal, { writer with sink })
  else (.ok (), { writer with held := writer.held ++ chunk })

/-- Writes a chunk.  One that does not fit beside what is held comes after it. -/
def write (writer : BufferedWriter) (chunk : ByteArray) : Except IoError Unit × BufferedWriter :=
  if chunk.size < writer.spare then (.ok (), { writer with held := writer.held ++ chunk })
  else if writer.spare < chunk.size then
    match writer.flush with
    | (.ok (), writer) => writer.accept chunk
    | (.error error, writer) => (.error error, writer)
  else writer.accept chunk

/-- Writes chunks up to the first that fails, and hands on what is held. -/
def writeAll : List ByteArray → BufferedWriter → Except IoError Unit × BufferedWriter
  | [], writer => writer.flush
  | chunk :: chunks, writer =>
    match writer.write chunk with
    | (.ok (), writer) => writeAll chunks writer
    | (.error error, writer) => (.error error, writer)

/-- Ends the writer.  What it still holds is offered once more. -/
def close (writer : BufferedWriter) : Sink :=
  writer.flush.2.sink

/-- Writes chunks to a sink through a buffer. -/
def transfer (capacity : Nat) (sink : Sink) (chunks : List ByteArray) :
    Except IoError Unit × Sink :=
  let (result, writer) := writeAll chunks { sink, capacity }
  (result, writer.close)

end BufferedWriter

/-- How many bytes the buffer in front of a file holds. -/
def fileBufferCapacity : Nat := 8192

end AccessTrace
