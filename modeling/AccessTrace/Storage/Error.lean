/-
Module: AccessTrace.Storage.Error
Purpose: Why a file could not be read or written.
Main exports:
  IoError, IoError.message, ReadFailure
-/
namespace AccessTrace

/-- Why a file operation failed. -/
inductive IoError where
  | noSuchEntry
  | outOfMemory
  | notDirectory
  | isDirectory
  | noSpace
  | nameTooLong
  /-- The bytes that were read are not text. -/
  | notText
  /-- A name with a zero character in it. -/
  | zeroInName
  /-- Any other reason, in words. -/
  | other (reason : String)
deriving DecidableEq, Repr

/-- The message about a failed file operation. -/
def IoError.message : IoError → String
  | .noSuchEntry => "No such file or directory (os error 2)"
  | .outOfMemory => "Cannot allocate memory (os error 12)"
  | .notDirectory => "Not a directory (os error 20)"
  | .isDirectory => "Is a directory (os error 21)"
  | .noSpace => "No space left on device (os error 28)"
  | .nameTooLong => "File name too long (os error 36)"
  | .notText => "stream did not contain valid UTF-8"
  | .zeroInName => "file name contained an unexpected NUL byte"
  | .other reason => reason

/-- A file that could not be read, by the step that failed. -/
inductive ReadFailure where
  | opening (error : IoError)
  | reading (error : IoError)
deriving DecidableEq, Repr

/-- The reason, whichever step it was. -/
def ReadFailure.error : ReadFailure → IoError
  | .opening error => error
  | .reading error => error

end AccessTrace
