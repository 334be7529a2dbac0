/-!
# Failures of the file system

The causes for which a file operation fails, with the wording of the operating system.
-/

namespace SlideDeck.File

/-- Why a file operation fails. -/
inductive Error where
  | notFound
  | busy
  | exists
  | notAFolder
  | isAFolder
  | invalid
  | nameTooLong
  | zeroInName
  /-- A failure that a back end words itself. -/
  | other (text : String)
deriving Repr, DecidableEq

/-- The wording of a failure. -/
def Error.message : Error → String
  | .notFound => "No such file or directory (os error 2)"
  | .busy => "Device or resource busy (os error 16)"
  | .exists => "File exists (os error 17)"
  | .notAFolder => "Not a directory (os error 20)"
  | .isAFolder => "Is a directory (os error 21)"
  | .invalid => "Invalid argument (os error 22)"
  | .nameTooLong => "File name too long (os error 36)"
  | .zeroInName => "file name contained an unexpected NUL byte"
  | .other text => text

end SlideDeck.File
