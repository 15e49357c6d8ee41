/-
Module: AccessTrace.Program.Host
Purpose: What a run needs from the machine it is on.
Main exports:
  Host, Session
-/
import AccessTrace.Storage.FileTree

namespace AccessTrace

/-!
A run reads files, writes files, prints, looks at the clock, and asks for a
seed where none was given.  It is written for any host that can do these five
things.  A session is such a host as a value: a tree of files, what has been
printed, and the answers of the clock and of chance.
-/

/-- Machines that a run can be on. -/
class Host (m : Type → Type) where
  /-- The content of a file. -/
  read (path : String) : m (Except ReadFailure ByteArray)
  /-- Writes a file anew, from chunks. -/
  write (path : String) (chunks : List ByteArray) : m (Except IoError Unit)
  /-- Prints a text. -/
  print (text : String) : m Unit
  /-- The time, as it is written in reports. -/
  now : m String
  /-- A seed that nobody chose. -/
  freshSeed : m UInt64

/-- A host stays one where steps can fail. -/
instance {ε : Type} {m : Type → Type} [Monad m] [Host m] : Host (ExceptT ε m) where
  read path := ExceptT.lift (Host.read path)
  write path chunks := ExceptT.lift (Host.write path chunks)
  print text := ExceptT.lift (Host.print text)
  now := ExceptT.lift Host.now
  freshSeed := ExceptT.lift Host.freshSeed

/-- A machine as a value. -/
structure Session where
  tree : FileTree
  printed : String := ""
  time : String
  seed : UInt64 := 0

instance : Host (StateM Session) where
  read path := do return (← get).tree.read path
  write path chunks := do
    let session ← get
    let (result, tree) := session.tree.write path chunks
    set { session with tree }
    return result
  print text := modify fun session => { session with printed := session.printed ++ text }
  now := do return (← get).time
  freshSeed := do return (← get).seed

end AccessTrace
