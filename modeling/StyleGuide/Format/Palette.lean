import StyleGuide.Text.Upper

/-!
# Colours of severities

A severity is shown in upper case. The two that matter most, `error` and `warn` in any case, are
shown in a colour of the palette.

## Main definitions

* `Palette`: The colours of errors and warnings.
* `Palette.tag`: A severity as it is shown.
-/

namespace StyleGuide

/-- The colours of errors and warnings. -/
structure Palette where
  error : Text := "red"
  warn : Text := "goldenrod"
  deriving DecidableEq, Repr

namespace Palette

/-- A text in a colour. -/
def span (color text : Text) : Text :=
  "<span style=\"color:" ++ color ++ "\">" ++ text ++ "</span>"

/-- A severity as it is shown: in upper case, in colour if it is an error or a warning. -/
def tag (palette : Palette) (severity : Text) : Text :=
  if severity.sameIgnoringCase "error" then span palette.error severity.upper
  else if severity.sameIgnoringCase "warn" then span palette.warn severity.upper
  else severity.upper

end Palette

end StyleGuide
