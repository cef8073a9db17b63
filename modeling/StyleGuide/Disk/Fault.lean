import StyleGuide.Text.Basic

/-!
# Faults of file operations

Why an operation on a file or a directory fails. Most faults are the operating system's and are
shown with its number for them.

## Main definitions

* `Disk.Fault`: Why an operation fails.
* `Disk.Fault.message`: The words for it.
-/

namespace StyleGuide

namespace Disk

/-- Why an operation on a file or a directory fails. -/
inductive Fault where
  | notFound
  | alreadyExists
  | notADirectory
  | isADirectory
  | nameTooLong
  | tooManyLinks
  /-- The content of a file is no text. -/
  | notText
  /-- No file name can hold the character zero. -/
  | zeroInName
  deriving DecidableEq, Repr

namespace Fault

/-- Why an operation fails, in words. -/
def message : Fault → Text
  | notFound => "No such file or directory (os error 2)"
  | alreadyExists => "File exists (os error 17)"
  | notADirectory => "Not a directory (os error 20)"
  | isADirectory => "Is a directory (os error 21)"
  | nameTooLong => "File name too long (os error 36)"
  | tooManyLinks => "Too many levels of symbolic links (os error 40)"
  | notText => "stream did not contain valid UTF-8"
  | zeroInName => "file name contained an unexpected NUL byte"

end Fault

end Disk

end StyleGuide
