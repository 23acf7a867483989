/-!
# Errors of files and programs

What a system says when it cannot do what is asked of a file or a program.
-/

namespace MeshOnboard

/-- Why something cannot be done with a file or a program. -/
inductive FileError where
  | notFound
  | argumentsTooLong
  | permissionDenied
  | alreadyExists
  | notDirectory
  | isDirectory
  | nameTooLong
  /-- A file name holds the character that ends one. -/
  | nulInName
  /-- An argument of a program holds the character that ends one. -/
  | nulInArgument
  /-- The content of a file is no text. -/
  | notText
  /-- A reason given by its text. -/
  | other (text : String)
  deriving DecidableEq

/-- The wording of a file error. -/
def FileError.message : FileError → String
  | notFound => "No such file or directory (os error 2)"
  | argumentsTooLong => "Argument list too long (os error 7)"
  | permissionDenied => "Permission denied (os error 13)"
  | alreadyExists => "File exists (os error 17)"
  | notDirectory => "Not a directory (os error 20)"
  | isDirectory => "Is a directory (os error 21)"
  | nameTooLong => "File name too long (os error 36)"
  | nulInName => "file name contained an unexpected NUL byte"
  | nulInArgument => "nul byte found in provided data"
  | notText => "stream did not contain valid UTF-8"
  | other text => text

end MeshOnboard
