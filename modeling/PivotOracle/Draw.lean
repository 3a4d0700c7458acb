import PivotOracle.Number.Binary64

/-!
# Random choices

Whatever is chosen at random is chosen by draws from a source of randomness, so that the same draws
always lead to the same choices.
-/

namespace PivotOracle

/-- A number drawn at random. -/
inductive Draw where
  /-- A fraction of one. -/
  | fraction (x : Double)
  | integer (n : Int)
deriving DecidableEq, Repr

namespace Draw

/-- The draw as an integer; the part of a fraction after the point is dropped. -/
def toInt : Draw → Int
  | .fraction (.finite x) => signed x.negative (x.scaled.natAbs / twoTo 1074)
  | .fraction _ => 0
  | .integer n => n

/-- A fair decision: yes below one half. -/
def coin : Draw → Bool
  | .fraction (.finite x) => 2 * x.scaled < twoTo 1074
  | .fraction (.infinite negative) => negative
  | .fraction .notANumber => false
  | .integer n => n ≤ 0

/-- An integer between two others, both included. -/
def between (draw : Draw) (low high : Int) : Int := low + draw.toInt.fmod (high - low + 1)

/-- One of the options, if there is any. -/
def choose {α : Type} (draw : Draw) (options : List α) : Option α :=
  options[(draw.toInt % options.length).toNat]?

end Draw

/-- The message about a choice among no options. -/
def emptyChoiceMessage : Text := "Cannot choose from an empty set of options"

end PivotOracle
