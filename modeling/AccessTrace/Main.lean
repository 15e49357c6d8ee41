/-
Module: AccessTrace.Main
Purpose: The command line program.
Main exports:
  main
-/
import AccessTrace.Program.Run
import Std.Time.Format

namespace AccessTrace

/-!
This is the machine that the program is on: its files, its standard output, its
clock and its source of chance.  What the program does with them is settled
elsewhere.
-/

/-- A reason as the system gives it. -/
def systemReason (code : UInt32) (details : String) : IoError :=
  .other (details ++ " (os error " ++ toString code ++ ")")

/-- The reason why an operation failed. -/
def reasonOf : IO.Error → IoError
  | .alreadyExists _ code details | .invalidArgument _ code details
  | .permissionDenied _ code details | .resourceExhausted _ code details
  | .inappropriateType _ code details | .noSuchThing _ code details
  | .noFileOrDirectory _ code details | .interrupted _ code details
  | .otherError code details | .resourceBusy code details | .resourceVanished code details
  | .unsupportedOperation code details | .hardwareFault code details
  | .unsatisfiedConstraints code details | .illegalOperation code details
  | .protocolError code details | .timeExpired code details => systemReason code details
  | .unexpectedEof => .other "unexpected end of file"
  | .userError reason => .other reason

/-- The result of an operation, or the reason why there is none. -/
def attempted {α : Type} (operation : IO α) : IO (Except IoError α) := do
  match ← operation.toBaseIO with
  | .ok value => return .ok value
  | .error error => return .error (reasonOf error)

/-- Writes chunks to a file. -/
def writeChunks (file : IO.FS.Handle) (chunks : List ByteArray) : IO Unit := do
  for chunk in chunks do
    file.write chunk
  file.flush

/-- The time in the form of RFC 3339. -/
def timeText : IO String := do
  let now ← Std.Time.Timestamp.now
  let moment := Std.Time.PlainDateTime.ofWallTime (now.toWallTime .zero)
  return moment.format "uuuu-MM-dd'T'HH:mm:ss.SSSSSSSSS'+00:00'"

instance : Host IO where
  read path := do
    match ← attempted (IO.FS.Handle.mk path .read) with
    | .error error => return .error (.opening error)
    | .ok file => return (← attempted file.readBinToEnd).mapError .reading
  write path chunks := do
    match ← attempted (IO.FS.Handle.mk path .write) with
    | .error error => return .error error
    | .ok file => attempted (writeChunks file chunks)
  print text := do
    let output ← IO.getStdout
    output.putStr text
    output.flush
  now := timeText
  freshSeed := do
    let bytes ← IO.getRandomBytes 8
    return bytes.foldl (fun seed byte => 256 * seed + byte.toUInt64) 0

end AccessTrace

open AccessTrace in
/-- Runs the program with the arguments of the command line. -/
def main (arguments : List String) : IO UInt32 := do
  let completion ← Program.start arguments
  match completion.complaint? with
  | some complaint => IO.eprintln complaint
  | none => pure ()
  return UInt32.ofNat completion.exitCode
