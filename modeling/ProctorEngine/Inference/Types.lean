import Mathlib.Algebra.Order.Ring.Rat
import Mathlib.Tactic.Linarith
import Mathlib.Tactic.Positivity
import ProctorEngine.Models

/-!
# Typed inference results

What the modality runners hand to the fusion engine. A `ConfidenceInterval` is validated by
its constructor in the source, so here it is a structure with the validation as its fields;
the two ways the engine builds one — a point, and the interval of a window of scores — come
with the proof that the validation passes.
-/

set_option autoImplicit false

namespace ProctorEngine

/-- A score in `[0, 1]`. -/
@[ext]
structure Score where
  val : ℚ
  nonneg : 0 ≤ val
  le_one : val ≤ 1

instance : DecidableEq Score := fun s t => decidable_of_iff (s.val = t.val) Score.ext_iff.symm

namespace Score

def zero : Score := ⟨0, le_rfl, zero_le_one⟩

def one : Score := ⟨1, zero_le_one, le_rfl⟩

end Score

/-- A `(lower, score, upper)` triple in `[0, 1]`. -/
@[ext]
structure ConfidenceInterval where
  lower : ℚ
  score : ℚ
  upper : ℚ
  lower_nonneg : 0 ≤ lower
  lower_le_score : lower ≤ score
  score_le_upper : score ≤ upper
  upper_le_one : upper ≤ 1

instance : DecidableEq ConfidenceInterval := fun i j =>
  decidable_of_iff (i.lower = j.lower ∧ i.score = j.score ∧ i.upper = j.upper)
    ConfidenceInterval.ext_iff.symm

namespace ConfidenceInterval

/-- The degenerate interval of a single-frame point estimate. -/
def point (s : Score) : ConfidenceInterval :=
  ⟨s.val, s.val, s.val, s.nonneg, le_rfl, le_rfl, s.le_one⟩

/-- `ConfidenceInterval(lower=1.0, score=1.0, upper=1.0)`. -/
def certain : ConfidenceInterval := point .one

end ConfidenceInterval

/-! ## 1. The interval of a window

`min`, clamped mean and `max` of a non-empty list of scores. -/

/-- `min(scores)`. -/
def minScore (s : Score) (ss : List Score) : ℚ := (ss.map (·.val)).foldl min s.val

/-- `max(scores)`. -/
def maxScore (s : Score) (ss : List Score) : ℚ := (ss.map (·.val)).foldl max s.val

/-- `sum(scores) / len(scores)`. -/
def meanScore (s : Score) (ss : List Score) : ℚ :=
  (s.val + (ss.map (·.val)).sum) / (ss.length + 1)

/-- `max(min_score, min(max_score, mean_score))`. -/
def clampedMean (s : Score) (ss : List Score) : ℚ :=
  max (minScore s ss) (min (maxScore s ss) (meanScore s ss))

section
variable {q m : ℚ} {qs : List ℚ}

theorem foldl_min_le : qs.foldl min q ≤ q := by
  induction qs generalizing q with
  | nil => exact le_rfl
  | cons a qs ih => exact ih.trans (min_le_left q a)

theorem le_foldl_max : q ≤ qs.foldl max q := by
  induction qs generalizing q with
  | nil => exact le_rfl
  | cons a qs ih => exact (le_max_left q a).trans ih

theorem le_foldl_min (hq : m ≤ q) (hqs : ∀ x ∈ qs, m ≤ x) : m ≤ qs.foldl min q := by
  induction qs generalizing q with
  | nil => exact hq
  | cons a qs ih =>
    exact ih (le_min hq (hqs a List.mem_cons_self)) fun x hx => hqs x (List.mem_cons_of_mem a hx)

theorem foldl_max_le (hq : q ≤ m) (hqs : ∀ x ∈ qs, x ≤ m) : qs.foldl max q ≤ m := by
  induction qs generalizing q with
  | nil => exact hq
  | cons a qs ih =>
    exact ih (max_le hq (hqs a List.mem_cons_self)) fun x hx => hqs x (List.mem_cons_of_mem a hx)

theorem foldl_min_mem : qs.foldl min q ∈ q :: qs := by
  induction qs generalizing q with
  | nil => exact List.mem_cons_self
  | cons a qs ih =>
    rcases List.mem_cons.mp (ih (q := min q a)) with h | h
    · rw [List.foldl_cons, h]
      rcases min_choice q a with h | h
      · rw [h]
        exact List.mem_cons_self
      · rw [h]
        exact List.mem_cons_of_mem q List.mem_cons_self
    · exact List.mem_cons_of_mem q (List.mem_cons_of_mem a h)

theorem foldl_max_mem : qs.foldl max q ∈ q :: qs := by
  induction qs generalizing q with
  | nil => exact List.mem_cons_self
  | cons a qs ih =>
    rcases List.mem_cons.mp (ih (q := max q a)) with h | h
    · rw [List.foldl_cons, h]
      rcases max_choice q a with h | h
      · rw [h]
        exact List.mem_cons_self
      · rw [h]
        exact List.mem_cons_of_mem q List.mem_cons_self
    · exact List.mem_cons_of_mem q (List.mem_cons_of_mem a h)

theorem foldl_min_le_of_mem {x : ℚ} (h : x ∈ qs) : qs.foldl min q ≤ x := by
  induction qs generalizing q with
  | nil => exact absurd h List.not_mem_nil
  | cons a qs ih =>
    rcases List.mem_cons.mp h with rfl | h
    · have hle : qs.foldl min (min q x) ≤ min q x := foldl_min_le
      exact hle.trans (min_le_right q x)
    · exact ih h

theorem le_foldl_max_of_mem {x : ℚ} (h : x ∈ qs) : x ≤ qs.foldl max q := by
  induction qs generalizing q with
  | nil => exact absurd h List.not_mem_nil
  | cons a qs ih =>
    rcases List.mem_cons.mp h with rfl | h
    · have hle : max q x ≤ qs.foldl max (max q x) := le_foldl_max
      exact (le_max_right q x).trans hle
    · exact ih h

end

section
variable {s : Score} {ss : List Score}

theorem minScore_nonneg : 0 ≤ minScore s ss :=
  le_foldl_min s.nonneg fun x hx => by
    obtain ⟨t, -, rfl⟩ := List.mem_map.mp hx
    exact t.nonneg

theorem maxScore_le_one : maxScore s ss ≤ 1 :=
  foldl_max_le s.le_one fun x hx => by
    obtain ⟨t, -, rfl⟩ := List.mem_map.mp hx
    exact t.le_one

theorem minScore_le_maxScore : minScore s ss ≤ maxScore s ss :=
  foldl_min_le.trans le_foldl_max

end

/-- The interval of a window: the clamp keeps the mean between the extremes, so the
    constructor's checks pass whatever the scores. -/
def ConfidenceInterval.ofWindow (s : Score) (ss : List Score) : ConfidenceInterval where
  lower := minScore s ss
  score := clampedMean s ss
  upper := maxScore s ss
  lower_nonneg := minScore_nonneg
  lower_le_score := le_max_left _ _
  score_le_upper := max_le minScore_le_maxScore (min_le_left _ _)
  upper_le_one := maxScore_le_one

/-! ## 2. Results, one structure per modality

The base class carries bounding boxes and raw values for auditing; the fusion engine reads
neither, and they are left out. -/

structure FacePresenceResult where
  eventType : String
  confidence : ConfidenceInterval
  faceCount : Nat
deriving DecidableEq

structure IdentityMatchResult where
  /-- Cosine similarity; the runner clamps it to `[0, 1]`. -/
  similarity : Score
deriving DecidableEq

structure HeadPoseGazeResult where
  confidence : ConfidenceInterval
  /-- `None` is a frame without landmarks. -/
  offScreen : Option Bool
deriving DecidableEq

structure ObjectDetectionResult where
  confidence : ConfidenceInterval
  detectedClass : String
deriving DecidableEq

structure AudioVadResult where
  eventType : String
  confidence : ConfidenceInterval
  speechRatio : ℚ
  rmsDb : ℚ
deriving DecidableEq

structure LivenessResult where
  /-- The runner's point estimate; the engine reads `confidence.score`. -/
  confidence : Score
  isReal : Bool
deriving DecidableEq

structure BrowserEventResult where
  eventType : String
  confidence : ConfidenceInterval
  detail : Dict
deriving DecidableEq

end ProctorEngine
