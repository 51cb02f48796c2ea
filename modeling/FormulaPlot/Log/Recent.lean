/-!
Keys that were met lately. Only so many are kept: the one that was met longest ago makes room for a
new one.
-/

namespace FormulaPlot.Log

set_option autoImplicit false

structure Recent (key : Type) where
  capacity : Nat
  /-- The key that was met last stands first. -/
  keys : List key

namespace Recent

variable {key : Type} [BEq key]

def nothing (capacity : Nat) : Recent key := ⟨capacity, []⟩

def knows (recent : Recent key) (met : key) : Bool := recent.keys.contains met

def meet (recent : Recent key) (met : key) : Recent key :=
  { recent with keys := (met :: recent.keys.erase met).take recent.capacity }

/-- Of keys that are met one by one, those that are not known when their turn comes. -/
def newcomers (recent : Recent key) : List key → List key
  | [] => []
  | met :: rest =>
      let later := (recent.meet met).newcomers rest
      if recent.knows met then later else met :: later

end Recent

end FormulaPlot.Log
