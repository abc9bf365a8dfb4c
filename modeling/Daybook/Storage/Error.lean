/-
Daybook.Storage.Error — why a storage did not do what it was asked.

A storage held in memory names the path in its answer, an operating system
gives a numbered cause. Callers distinguish the *kind* of an error, and of
the kinds only one matters to them: that a file is there already.
-/
import Daybook.Path

namespace Daybook

/-- The causes that an operating system gives. -/
inductive SystemCause where
  | noSuchEntry
  | accessDenied
  | entryExists
  | notAFolder
  | isAFolder
  | nameTooLong
  | notSupported
deriving DecidableEq, Repr

inductive StorageErrorKind where
  | notFound
  | alreadyExists
  | permissionDenied
  | isAFolder
  | notAFolder
  | invalidInput
  | invalidName
  | unsupported
  | other
deriving DecidableEq, Repr

/-- Why a storage failed. -/
inductive StorageError where
  /-- There is no file to read. -/
  | noFile (path : Path)
  /-- The folder that the file should go into is not there. -/
  | noParent (path : Path)
  /-- There is a file or folder where a new file should go. -/
  | taken (path : Path)
  /-- There is a file where a folder should go. -/
  | fileInTheWay (path : Path)
  /-- The storage refuses this sort of request for now. -/
  | denied
  /-- The path holds a character that no name can have. -/
  | badCharacter
  /-- The operating system gave this cause. -/
  | system (cause : SystemCause)
  /-- Another storage failed, in these words. -/
  | reported (text : String)
deriving DecidableEq, Repr

namespace SystemCause

def code : SystemCause → Nat
  | .noSuchEntry => 2
  | .accessDenied => 13
  | .entryExists => 17
  | .notAFolder => 20
  | .isAFolder => 21
  | .nameTooLong => 36
  | .notSupported => 38

def words : SystemCause → String
  | .noSuchEntry => "No such file or directory"
  | .accessDenied => "Permission denied"
  | .entryExists => "File exists"
  | .notAFolder => "Not a directory"
  | .isAFolder => "Is a directory"
  | .nameTooLong => "File name too long"
  | .notSupported => "Function not implemented"

def kind : SystemCause → StorageErrorKind
  | .noSuchEntry => .notFound
  | .accessDenied => .permissionDenied
  | .entryExists => .alreadyExists
  | .notAFolder => .notAFolder
  | .isAFolder => .isAFolder
  | .nameTooLong => .invalidName
  | .notSupported => .unsupported

end SystemCause

namespace StorageError

def kind : StorageError → StorageErrorKind
  | noFile _ | noParent _ => .notFound
  | taken _ | fileInTheWay _ => .alreadyExists
  | denied => .permissionDenied
  | badCharacter => .invalidInput
  | system cause => cause.kind
  | reported _ => .other

def message : StorageError → String
  | noFile path => "File not found: " ++ path.shown
  | noParent path => "Parent folder missing: " ++ path.shown
  | taken path => "File exists: " ++ path.shown
  | fileInTheWay path => "A file is in the way: " ++ path.shown
  | denied => "denied"
  | badCharacter => "file name contained an unexpected NUL byte"
  | system cause => cause.words ++ " (os error " ++ toString cause.code ++ ")"
  | reported text => text

end StorageError

end Daybook
