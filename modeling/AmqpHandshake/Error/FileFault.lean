/-! Why a file could not be read or written. -/
namespace AmqpHandshake

/-- The ways in which reading or writing a file fails. -/
inductive FileFault
  | notFound
  | isDirectory
  | notDirectory
  | nameTooLong
  /-- A path that holds the character with code zero. -/
  | nulInPath
  | notText
  /-- Any other fault, in the words of the operating system. -/
  | other (text : String)
deriving DecidableEq, Repr

/-- The text of a fault, with its error number where the operating system gives one. -/
def FileFault.message : FileFault → String
  | .notFound => "No such file or directory (os error 2)"
  | .isDirectory => "Is a directory (os error 21)"
  | .notDirectory => "Not a directory (os error 20)"
  | .nameTooLong => "File name too long (os error 36)"
  | .nulInPath => "file name contained an unexpected NUL byte"
  | .notText => "stream did not contain valid UTF-8"
  | .other text => text

end AmqpHandshake
