/-
**Why an operation on files fails.**
-/

namespace StoreTopology

inductive FileProblem where
  | notFound
  /-- A directory on the way does not grant its owner what the operation needs. -/
  | permissionDenied
  | alreadyExists
  | notDirectory
  | isDirectory
  | invalidArgument
  | busy
  | notEmpty
  | nameTooLong
  /-- A path holds the character that ends paths. -/
  | containsNul
  /-- A file that has to hold text holds other bytes. -/
  | notText
deriving DecidableEq, Repr

namespace FileProblem

def message : FileProblem → String
  | notFound => "No such file or directory (os error 2)"
  | permissionDenied => "Permission denied (os error 13)"
  | busy => "Device or resource busy (os error 16)"
  | alreadyExists => "File exists (os error 17)"
  | notDirectory => "Not a directory (os error 20)"
  | isDirectory => "Is a directory (os error 21)"
  | invalidArgument => "Invalid argument (os error 22)"
  | nameTooLong => "File name too long (os error 36)"
  | notEmpty => "Directory not empty (os error 39)"
  | containsNul => "file name contained an unexpected NUL byte"
  | notText => "stream did not contain valid UTF-8"

end FileProblem

end StoreTopology
