/-!
# Faults of files

Why the operating system does not do what is asked of a file, in its words and by its numbers.
-/

namespace Provision

/-- Why a file cannot be used. -/
inductive FileFault where
  | denied
  | absent
  | alreadyThere
  | notDirectory
  | isDirectory
  | nameTooLong
  | notEmpty
  | badDescriptor
  | noSpace
  | invalid
  | notPermitted
  | notRunnable
  | tooManyLinks
  | busy
  | noDevice
  /-- What a script wants to be run by is not there. -/
  | noInterpreter
  deriving DecidableEq, Repr

namespace FileFault

/-- The words for a fault. -/
def reason : FileFault → String
  | denied => "Permission denied"
  | absent => "No such file or directory"
  | alreadyThere => "File exists"
  | notDirectory => "Not a directory"
  | isDirectory => "Is a directory"
  | nameTooLong => "File name too long"
  | notEmpty => "Directory not empty"
  | badDescriptor => "Bad file descriptor"
  | noSpace => "No space left on device"
  | invalid => "Invalid argument"
  | notPermitted => "Operation not permitted"
  | notRunnable => "Exec format error"
  | tooManyLinks => "Too many levels of symbolic links"
  | busy => "Device or resource busy"
  | noDevice => "No such device or address"
  | noInterpreter => "No such file or directory"

/-- The number of a fault. -/
def number : FileFault → Nat
  | denied => 13
  | absent => 2
  | alreadyThere => 17
  | notDirectory => 20
  | isDirectory => 21
  | nameTooLong => 36
  | notEmpty => 39
  | badDescriptor => 9
  | noSpace => 28
  | invalid => 22
  | notPermitted => 1
  | notRunnable => 8
  | tooManyLinks => 40
  | busy => 16
  | noDevice => 6
  | noInterpreter => 2

/-- The words and the number. -/
def message (f : FileFault) : String := f.reason ++ " (os error " ++ toString f.number ++ ")"

end FileFault

end Provision
