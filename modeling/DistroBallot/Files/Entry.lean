import DistroBallot.Files.Path

/-!
# Files

What a program can see of files: what stands under each path. When a log is written to a file, what
was written to it stands there as well, so that a program that reads its own log sees what it has
told so far (`LogFile.filesAfter`).
-/

namespace DistroBallot

/-- What stands under a path: a regular file, one that cannot be opened or read, nothing, or
something that cannot be read because it is no file, such as a directory or a path through a
file. -/
inductive Entry where
  | file (bytes : List UInt8)
  | locked
  | missing
  | unreadable
deriving DecidableEq, Repr

/-- Whether it is a regular file. -/
def Entry.isRegular : Entry → Bool
  | .file _ | .locked => true
  | .missing | .unreadable => false

/-- The files that a program can see: what stands under each path. -/
abbrev Files := Text → Entry

/-- What stands under a path; nothing can be read under a path that is none. -/
def Files.entry (files : Files) (path : Text) : Entry :=
  if Path.holdsNull path then .unreadable else files path

/-- Why a log file cannot be opened: its directory is not there, it is a directory, its path goes
through a file, its path is refused, or its path is none. -/
inductive LogFileError where
  | noDirectory
  | isDirectory
  | throughFile
  | refused
  | nullInPath
deriving DecidableEq, Repr

/-- A log file that has been opened: the files as they stood then, with an empty file where there
was none, and which paths lead to the log file. -/
structure LogFile where
  files : Files
  isAt : Text → Bool

namespace LogFile

/-- The files after so much was written to the log file. -/
def filesAfter (log : LogFile) (written : String) : Files := fun path =>
  match log.files path with
  | .file bytes =>
    .file (if log.isAt path then bytes ++ written.toList.flatMap String.utf8EncodeChar else bytes)
  | e => e

end LogFile
end DistroBallot
