import ArtForgeStudio.Library.Runs
import Mathlib.Order.Defs.PartialOrder
import Mathlib.Data.Option.Basic

/-! # Marks that only rise

A state keeps the last value it took as its mark and takes no lower one; a reset may leave any
mark. Between two resets the values that a run takes never decrease.
-/

namespace ArtForgeStudio.Watermarks

inductive Record (V : Type*) where
  | reset
  | applied (value : V)
deriving DecidableEq

variable {A S V : Type*}

/-- A step that records nothing keeps the mark; a value is taken if it is no lower, and is the
mark from then on. -/
structure Guarded [LE V] (step : A → S → S) (record : A → S → Option (Record V))
    (mark : S → Option V) : Prop where
  silent : ∀ action state, record action state = none → mark (step action state) = mark state
  applied : ∀ action state value, record action state = some (.applied value) →
    mark (step action state) = some value ∧ ∀ current ∈ mark state, current ≤ value

variable [Preorder V] {step : A → S → S} {record : A → S → Option (Record V)}
  {mark : S → Option V} {actions : List A} {start : S} {m n : V}
  {earlier between later : List (Record V)}

end ArtForgeStudio.Watermarks
