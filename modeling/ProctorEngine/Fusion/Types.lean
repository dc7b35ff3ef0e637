import ProctorEngine.Inference.Types

/-!
# What the fusion engine emits

`FlagDecision` is the aggregator's output and the persistence layer's input; `GazeAwayEvent`
is the aggregate the gaze ladder counts and is never persisted.
-/

set_option autoImplicit false

namespace ProctorEngine

/-- A single uninterrupted off-screen episode. -/
structure GazeAwayEvent where
  startedAtMs : Int
  endedAtMs : Int
  contributingEventIds : List UUID
deriving DecidableEq, Repr

/-- A fully resolved flag decision. `severity` is a string because fusion never holds an ORM
    enum. -/
structure FlagDecision where
  ruleCode : String
  severity : String
  confidence : ConfidenceInterval
  triggeredTermination : Bool := false
  suppressedByExemptionId : Option UUID := none
  detail : Dict := []
  contributingEventIds : List UUID := []
  scoreDelta : ℚ := 0
deriving DecidableEq

end ProctorEngine
