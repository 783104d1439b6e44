/-
**Why a file cannot be read.**
-/

namespace IndexGuard

/-- Why a file cannot be read as text. -/
inductive ReadFailure where
  | notFound
  | notDirectory
  | isDirectory
  | nameTooLong
  /-- The name contains a character that no name can have. -/
  | nameMalformed
  /-- The bytes are not UTF-8. -/
  | notText
  | other (reason : String)
  deriving DecidableEq

/-- The failure in the words of the operating system. -/
def ReadFailure.message : ReadFailure → String
  | notFound => "No such file or directory (os error 2)"
  | notDirectory => "Not a directory (os error 20)"
  | isDirectory => "Is a directory (os error 21)"
  | nameTooLong => "File name too long (os error 36)"
  | nameMalformed => "file name contained an unexpected NUL byte"
  | notText => "stream did not contain valid UTF-8"
  | other reason => reason

end IndexGuard
