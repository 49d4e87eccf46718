import BoxPuzzle.Decimal.Plain
import BoxPuzzle.Grid.Error
import BoxPuzzle.Layout.Style

/-!
# Style sheets

The text of a style, one rule a line. Lengths are rounded to hundredths of a pixel, a half away
from zero.

* `Selectors.text`: the selector of a target;
* `Value.css`, `Rule.css`, `Style.css`, `Style.cssText`.
-/

namespace BoxPuzzle

/-- The selector of a target. -/
def Selectors.text (s : Selectors) : Target → String
  | .cells => "." ++ s.cell
  | .columnEdge every => "." ++ s.cell ++ ":nth-child(" ++ wordText every ++ "n)"
  | .rowEdge every => "#" ++ s.container ++ " :nth-child(" ++ wordText every ++ "n) ." ++ s.cell
  | .rows => "#" ++ s.container ++ " > div"

/-- The number rounded to hundredths. -/
def hundredths (x : Float) : Float := (x * 100).round / 100

/-- The text of a value. -/
def Value.css : Value Float → String
  | length x => floatText (hundredths x) ++ "px"
  | border width color => wordText width ++ "px solid " ++ color

/-- The text of a rule. -/
def Rule.css (s : Selectors) (r : Rule Float) : String :=
  s.text r.target ++ " \x7b " ++ r.property ++ ": " ++ r.value.css ++ "; \x7d"

/-- The texts of the rules. -/
def Style.css (s : Style Float) : List String := s.rules.map (Rule.css s.selectors)

/-- The text of the style. -/
def Style.cssText (s : Style Float) : String := "\n".intercalate s.css

end BoxPuzzle
