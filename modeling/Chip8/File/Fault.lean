/-! # What can go wrong with a file

The reasons for which a file operation is refused, with the texts that the
operating system gives them. -/

namespace Chip8.File

inductive Fault where
  | notFound
  | exists
  | notDirectory
  | isDirectory
  | nameTooLong
  | nullInName
  | notText
  | other (reason : String)
deriving DecidableEq

def Fault.message : Fault → String
  | .notFound => "No such file or directory (os error 2)"
  | .exists => "File exists (os error 17)"
  | .notDirectory => "Not a directory (os error 20)"
  | .isDirectory => "Is a directory (os error 21)"
  | .nameTooLong => "File name too long (os error 36)"
  | .nullInName => "file name contained an unexpected NUL byte"
  | .notText => "stream did not contain valid UTF-8"
  | .other reason => reason

/-- The fault that the operating system has under a number, with its text. -/
def Fault.ofNumber (number : Nat) (text : String) : Fault :=
  match number with
  | 2 => .notFound
  | 17 => .exists
  | 20 => .notDirectory
  | 21 => .isDirectory
  | 36 => .nameTooLong
  | _ => .other s!"{text.capitalize} (os error {number})"

end Chip8.File
