import StyleGuide.Config.Settings
import StyleGuide.Disk.Fault
import StyleGuide.Disk.Path
import StyleGuide.Format.Registry

/-!
# Errors

Why work on rulesets fails: a file or directory cannot be used, a document cannot be written in a
format, or there are no settings.

## Main definitions

* `Error`: Why work on rulesets fails.
* `Error.message`: The words for it.
* `Error.isBreakdown`: Whether the program gives up without any.
-/

namespace StyleGuide

/-- Why work on rulesets fails. -/
inductive Error where
  /-- The file or directory under a path cannot be used. The path is kept as it was given. -/
  | disk (path : Path) (fault : Disk.Fault)
  | format (error : FormatError)
  | config (error : Config.Error)
  deriving DecidableEq, Repr

namespace Error

/-- Whether work broke down. Then nothing is said about it. -/
def isBreakdown (error : Error) : Bool := error == .config .noSuchPlace

/-- Why work fails, in words. -/
def message : Error → Text
  | disk path fault => path ++ ": " ++ fault.message
  | format error => error.message
  | config error => error.message

end Error

end StyleGuide
