import FormulaPlot.Proofs.Plane.Runs
import FormulaPlot.Proofs.Scene.PlaneFrames
import FormulaPlot.Proofs.Tikz.Comments

/-!
Pictures and documents of the same entries. Both choose between curves and relations, cut the
domain to the viewport and sample on their own, and what the document draws by coordinates is what
the picture has on the layer of the curves. No sampled line is too short for the picture, so that
none is drawn in one of them only.
-/

namespace FormulaPlot

open FormulaPlot.Scalar

set_option autoImplicit false

/-! Sampling -/

namespace Contour

end Contour

namespace Trace

end Trace

namespace Tikz

section Plots

variable {graph : Graph Float} {viewport : Viewport Float} {style reason expression : String}
  {trace : Trace Float}

end Plots

namespace ExportedAs

variable {viewport : Viewport Float} {graph : Graph Float} {polylines : List (List (Point Float))}

end ExportedAs

/-! Lists of entries -/

end Tikz

end FormulaPlot
