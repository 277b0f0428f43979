/-!
Pipelines of transformations. A step is a function with a condition; where the condition fails the
value passes unchanged.
-/

namespace ChatRetrieval

/-- A transformation of values. -/
abbrev Transformation (α : Type) := α → α

namespace Transformation

/-- Leaves every value alone. -/
def identity {α : Type} : Transformation α := fun a => a

/-- Runs `next` on what `first` gives. -/
def pipe {α : Type} (first next : Transformation α) : Transformation α := fun a => next (first a)

/-- Runs only on values that meet the condition. -/
def guarded {α : Type} (condition : α → Bool) (t : Transformation α) : Transformation α :=
  fun a => if condition a then t a else a

end Transformation

end ChatRetrieval
