/-!
# Commands and how they end

The ways in which the operating system refuses a file or a program, and the ways in
which a program that was started comes to its end.
-/

set_option autoImplicit false

namespace GpuSharing

inductive OsError where
  | notFound
  | permissionDenied
  | notDirectory
  | isDirectory
  | nameTooLong
  | tooManyLinks
  /-- The content of a file is no text. -/
  | notText
  deriving DecidableEq, Repr

def OsError.message : OsError → String
  | notFound => "No such file or directory (os error 2)"
  | permissionDenied => "Permission denied (os error 13)"
  | notDirectory => "Not a directory (os error 20)"
  | isDirectory => "Is a directory (os error 21)"
  | nameTooLong => "File name too long (os error 36)"
  | tooManyLinks => "Too many levels of symbolic links (os error 40)"
  | notText => "stream did not contain valid UTF-8"

inductive CommandEnd where
  | notStarted (error : OsError)
  /-- It does not end by itself. -/
  | hung
  | exited (status : Nat) (output complaint : String)
  /-- It was killed by signal 9. -/
  | killed (output complaint : String)
  deriving DecidableEq, Repr

namespace CommandEnd

def succeeded : CommandEnd := .exited 0 "" ""

def failed : CommandEnd := .exited 1 "" ""

end CommandEnd

end GpuSharing
