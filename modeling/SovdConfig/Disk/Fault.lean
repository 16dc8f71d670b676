import SovdConfig.Path

namespace SovdConfig

/-!
# Faults of the file system

Main definitions:

* `DiskFault` — why an operation on a file or directory fails;
* `DiskFault.message` — the words for it.
-/

/-- Why an operation on a file or directory fails. -/
inductive DiskFault
  | notFound
  | alreadyExists
  | notDirectory
  | isDirectory
  | nameTooLong
  /-- The path holds a byte that ends it for the system. -/
  | nulByte
  /-- The file is no text. -/
  | notText
  /-- Any other failure, in the words of the system. -/
  | other (message : String)
deriving DecidableEq, Repr

/-- The words for a failure. -/
def DiskFault.message : DiskFault → String
  | notFound => "No such file or directory (os error 2)"
  | alreadyExists => "File exists (os error 17)"
  | notDirectory => "Not a directory (os error 20)"
  | isDirectory => "Is a directory (os error 21)"
  | nameTooLong => "File name too long (os error 36)"
  | nulByte => "file name contained an unexpected NUL byte"
  | notText => "stream did not contain valid UTF-8"
  | other message => message

end SovdConfig
