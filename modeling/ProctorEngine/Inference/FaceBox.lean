import Mathlib.Data.Rat.Floor
import ProctorEngine.Inference.Types

/-!
# The box around a face

Identity match and liveness both look at the pixels around the landmarks, and both ask
`_extract_face_bbox_pixel_coords` for them. It works on each axis by itself: the least and the
greatest coordinate are clamped to the image, scaled and cut to whole pixels, moved apart by
three tenths of their distance, a pixel at least, and cut to the frame again.

Landmarks may lie outside the image, for the model extrapolates. **There is a box exactly where
some landmark is less than a pixel off each edge** (`extractFaceBbox_isSome_iff`), and every box
lies in the frame, has an inside and holds the pixel of every landmark that has one.

NumPy's floats are rationals.
-/

set_option autoImplicit false

namespace ProctorEngine.Inference

/-! ## 1. The extraction

The two axes are treated alike, so a side is one function, of the least and the greatest
coordinate. -/

/-- A landmark, in coordinates of the image normalised to `[0, 1]`. -/
structure Landmark where
  x : ℚ
  y : ℚ
  z : ℚ
deriving DecidableEq, Repr

/-- `[x1, y1, x2, y2]`; the last two are one past the box. -/
structure PixelBox where
  x1 : Int
  y1 : Int
  x2 : Int
  y2 : Int
deriving DecidableEq, Repr

/-- `int(x)` of a float, which cuts off towards zero. -/
def pyInt (x : ℚ) : Int := if x < 0 then ⌈x⌉ else ⌊x⌋

/-- One axis of the box: the clamped ends, scaled, with the padding on both sides. -/
def paddedSide (low high : ℚ) (size : Nat) : Int × Int :=
  let first := pyInt (max 0 low * size)
  let last := pyInt (min 1 high * size)
  let pad := max 1 (pyInt ((last - first : Int) * (3 / 10)))
  (max 0 (first - pad), min (size : Int) (last + pad))

/-- `_extract_face_bbox_pixel_coords`, with the landmarks of `raw_value`. -/
def extractFaceBbox (landmarks : List Landmark) (width height : Nat) : Option PixelBox :=
  match landmarks with
  | [] => none
  | p :: ps =>
    let side := paddedSide ((ps.map (·.x)).foldl min p.x) ((ps.map (·.x)).foldl max p.x) width
    let rise := paddedSide ((ps.map (·.y)).foldl min p.y) ((ps.map (·.y)).foldl max p.y) height
    if side.2 ≤ side.1 ∨ rise.2 ≤ rise.1 then none
    else some ⟨side.1, rise.1, side.2, rise.2⟩

/-! ## 2. One axis

Where the landmarks lie in the image the side contains them. Outside it, what is left is a pixel of
padding, or nothing. -/

section
variable {x y low high : ℚ} {size : Nat}

theorem pyInt_of_nonneg (h : 0 ≤ x) : pyInt x = ⌊x⌋ := if_neg (not_lt.mpr h)

theorem pyInt_nonneg (h : 0 ≤ x) : 0 ≤ pyInt x := by
  rw [pyInt_of_nonneg h]
  exact Int.floor_nonneg.mpr h

/-- What is cut off below zero stays at most zero, and reaches it within one. -/
theorem pyInt_of_neg (h : x < 0) : pyInt x ≤ 0 ∧ (pyInt x = 0 ↔ -1 < x) := by
  rw [pyInt, if_pos h]
  have hle : ⌈x⌉ ≤ 0 := Int.ceil_le.mpr (by exact_mod_cast h.le)
  refine ⟨hle, ?_⟩
  have hlt : -1 < ⌈x⌉ ↔ -1 < x := by
    rw [Int.lt_ceil]
    norm_num
  rw [← hlt]
  omega

theorem floor_mul_le (hx : x ≤ y) : ⌊x * (size : ℚ)⌋ ≤ ⌊y * (size : ℚ)⌋ :=
  Int.floor_le_floor (mul_le_mul_of_nonneg_right hx (Nat.cast_nonneg size))

/-- Ends that do not lie apart are moved apart by a pixel. -/
theorem padding_of_nonpos {d : Int} (h : d ≤ 0) : max 1 (pyInt (d * (3 / 10))) = 1 := by
  have hscaled : (d : ℚ) * (3 / 10) ≤ 0 :=
    mul_nonpos_of_nonpos_of_nonneg (by exact_mod_cast h) (by norm_num)
  refine max_eq_left ?_
  obtain hneg | hzero := hscaled.lt_or_eq
  · exact (pyInt_of_neg hneg).1.trans zero_le_one
  · rw [hzero]
    decide

/-- Inside the image the greatest coordinate is not cut below the least. -/
theorem paddedSide_inside (h : low ≤ high) (hlow : low ≤ 1) (hhigh : 0 ≤ high) (hsize : 0 < size) :
    (paddedSide low high size).1 < (paddedSide low high size).2 := by
  have hclamped : max 0 low ≤ min 1 high :=
    max_le (le_min zero_le_one hhigh) (le_min hlow h)
  have hfirst : 0 ≤ max 0 low * (size : ℚ) := mul_nonneg (le_max_left 0 low) (Nat.cast_nonneg size)
  have hlast : 0 ≤ min 1 high * (size : ℚ) :=
    mul_nonneg ((le_max_left 0 low).trans hclamped) (Nat.cast_nonneg size)
  have hle : pyInt (max 0 low * size) ≤ pyInt (min 1 high * size) := by
    rw [pyInt_of_nonneg hfirst, pyInt_of_nonneg hlast]
    exact floor_mul_le hclamped
  have hbound : pyInt (min 1 high * size) ≤ size := by
    rw [pyInt_of_nonneg hlast]
    refine (floor_mul_le (min_le_left 1 high)).trans ?_
    rw [one_mul, Int.floor_natCast]
  have hnonneg := pyInt_nonneg hfirst
  simp only [paddedSide]
  generalize pyInt (max 0 low * size) = first at *
  generalize pyInt (min 1 high * size) = last at *
  generalize pyInt _ = pad
  omega

/-- Past the left edge one padding pixel is all there is to reach the frame with. -/
theorem paddedSide_left (h : low ≤ high) (hhigh : high < 0) (hsize : 0 < size) :
    (paddedSide low high size).1 < (paddedSide low high size).2 ↔ -1 < high * size := by
  have hpositive : (0 : ℚ) < size := by exact_mod_cast hsize
  have hlow : max 0 low = 0 := max_eq_left (h.trans hhigh.le)
  have hmin : min 1 high = high := min_eq_right (hhigh.le.trans zero_le_one)
  obtain ⟨hle, hzero⟩ := pyInt_of_neg (mul_neg_of_neg_of_pos hhigh hpositive)
  have hfirst : pyInt (0 * (size : ℚ)) = 0 := by
    rw [zero_mul]
    rfl
  have hpad := padding_of_nonpos (d := pyInt (high * size) - 0) (by omega)
  simp only [paddedSide, hlow, hmin, hfirst, hpad, ← hzero]
  omega

/-- Past the right edge it is the same. -/
theorem paddedSide_right (h : low ≤ high) (hlow : 1 < low) (hsize : 0 < size) :
    (paddedSide low high size).1 < (paddedSide low high size).2 ↔ low * size < size + 1 := by
  have hpositive : (0 : ℚ) < size := by exact_mod_cast hsize
  have hmax : max 0 low = low := max_eq_right (zero_le_one.trans hlow.le)
  have hmin : min 1 high = 1 := min_eq_left (hlow.le.trans h)
  have hlast : pyInt (1 * (size : ℚ)) = size := by
    rw [one_mul, pyInt_of_nonneg hpositive.le, Int.floor_natCast]
  have hscale : (size : ℚ) ≤ low * size := le_mul_of_one_le_left hpositive.le hlow.le
  have hfirst : pyInt (low * size) = ⌊low * (size : ℚ)⌋ :=
    pyInt_of_nonneg (hpositive.le.trans hscale)
  have hge : (size : Int) ≤ ⌊low * (size : ℚ)⌋ := Int.le_floor.mpr (by exact_mod_cast hscale)
  have hpad := padding_of_nonpos (d := (size : Int) - ⌊low * (size : ℚ)⌋) (by omega)
  have hlt : ⌊low * (size : ℚ)⌋ < (size : Int) + 1 ↔ low * size < size + 1 := by
    rw [Int.floor_lt]
    push_cast
    rfl
  simp only [paddedSide, hmax, hmin, hfirst, hlast, hpad, ← hlt]
  omega

/-- Some coordinate is less than a pixel off each end of the axis. -/
def Reaches (coords : List ℚ) (size : Nat) : Prop :=
  0 < size ∧ (∃ c ∈ coords, -1 < c * size) ∧ ∃ c ∈ coords, c * size < size + 1

instance (coords : List ℚ) (size : Nat) : Decidable (Reaches coords size) :=
  inferInstanceAs (Decidable (_ ∧ _ ∧ _))

theorem paddedSide_empty : (paddedSide low high 0).2 ≤ (paddedSide low high 0).1 := by
  simp only [paddedSide, Nat.cast_zero]
  omega

theorem least_le {c d : ℚ} {cs : List ℚ} (h : d ∈ c :: cs) : cs.foldl min c ≤ d := by
  rcases List.mem_cons.mp h with rfl | h
  · exact foldl_min_le
  · exact foldl_min_le_of_mem h

theorem le_greatest {c d : ℚ} {cs : List ℚ} (h : d ∈ c :: cs) : d ≤ cs.foldl max c := by
  rcases List.mem_cons.mp h with rfl | h
  · exact le_foldl_max
  · exact le_foldl_max_of_mem h

theorem exists_gt_iff {c : ℚ} {cs : List ℚ} {b : ℚ} :
    (∃ d ∈ c :: cs, b < d * size) ↔ b < cs.foldl max c * size := by
  constructor
  · rintro ⟨d, hd, hlt⟩
    exact hlt.trans_le (mul_le_mul_of_nonneg_right (le_greatest hd) (Nat.cast_nonneg size))
  · exact fun h => ⟨_, foldl_max_mem, h⟩

theorem exists_lt_iff {c : ℚ} {cs : List ℚ} {b : ℚ} :
    (∃ d ∈ c :: cs, d * size < b) ↔ cs.foldl min c * size < b := by
  constructor
  · rintro ⟨d, hd, hlt⟩
    exact lt_of_le_of_lt (mul_le_mul_of_nonneg_right (least_le hd) (Nat.cast_nonneg size)) hlt
  · exact fun h => ⟨_, foldl_min_mem, h⟩

/-- **One axis**: the ends stay apart exactly where the coordinates reach the frame. -/
theorem paddedSide_lt_iff {c : ℚ} {cs : List ℚ} :
    (paddedSide (cs.foldl min c) (cs.foldl max c) size).1 <
        (paddedSide (cs.foldl min c) (cs.foldl max c) size).2 ↔ Reaches (c :: cs) size := by
  rw [Reaches, exists_gt_iff, exists_lt_iff]
  have hle : cs.foldl min c ≤ cs.foldl max c := foldl_min_le.trans le_foldl_max
  generalize cs.foldl min c = low at *
  generalize cs.foldl max c = high at *
  rcases Nat.eq_zero_or_pos size with rfl | hsize
  · exact iff_of_false (not_lt.mpr paddedSide_empty) fun h => absurd h.1 (lt_irrefl 0)
  have hpositive : (0 : ℚ) < size := by exact_mod_cast hsize
  by_cases hleft : high < 0
  · rw [paddedSide_left hle hleft hsize]
    have hlow : low * size ≤ 0 :=
      mul_nonpos_of_nonpos_of_nonneg (hle.trans hleft.le) hpositive.le
    exact ⟨fun h => ⟨hsize, h, by linarith⟩, fun h => h.2.1⟩
  by_cases hright : 1 < low
  · rw [paddedSide_right hle hright hsize]
    have hhigh : 0 ≤ high * size :=
      mul_nonneg (zero_le_one.trans (hright.le.trans hle)) hpositive.le
    exact ⟨fun h => ⟨hsize, by linarith, h⟩, fun h => h.2.2⟩
  · have hhigh : 0 ≤ high * size := mul_nonneg (not_lt.mp hleft) hpositive.le
    have hlow : low * size ≤ size := mul_le_of_le_one_left hpositive.le (not_lt.mp hright)
    exact iff_of_true (paddedSide_inside hle (not_lt.mp hright) (not_lt.mp hleft) hsize)
      ⟨hsize, by linarith, by linarith⟩

/-- The pixel of a coordinate of the image lies between the ends. -/
theorem paddedSide_contains (hlow : low ≤ x) (hhigh : x ≤ high) (hnonneg : 0 ≤ x) (hlt : x < 1)
    (hsize : 0 < size) :
    (paddedSide low high size).1 ≤ ⌊x * (size : ℚ)⌋ ∧
      ⌊x * (size : ℚ)⌋ < (paddedSide low high size).2 := by
  have hpositive : (0 : ℚ) < size := by exact_mod_cast hsize
  have hfirst : pyInt (max 0 low * size) ≤ ⌊x * (size : ℚ)⌋ := by
    rw [pyInt_of_nonneg (mul_nonneg (le_max_left 0 low) hpositive.le)]
    exact floor_mul_le (max_le hnonneg hlow)
  have hlast : ⌊x * (size : ℚ)⌋ ≤ pyInt (min 1 high * size) := by
    rw [pyInt_of_nonneg (mul_nonneg (le_min zero_le_one (hnonneg.trans hhigh)) hpositive.le)]
    exact floor_mul_le (le_min hlt.le hhigh)
  have hstart : 0 ≤ ⌊x * (size : ℚ)⌋ := Int.floor_nonneg.mpr (mul_nonneg hnonneg hpositive.le)
  have hend : ⌊x * (size : ℚ)⌋ < size := by
    rw [Int.floor_lt]
    exact_mod_cast mul_lt_of_lt_one_left hpositive hlt
  simp only [paddedSide]
  generalize pyInt (max 0 low * size) = first at *
  generalize pyInt (min 1 high * size) = last at *
  generalize pyInt _ = pad
  omega

end

/-! ## 3. The box

Two sides make a box, and there is one if neither of them is empty. -/

/-- The box lies in the frame and has an inside, and a landmark whose coordinate is one of the
    image has its pixel between the two ends of that axis. -/
structure PixelBox.Frames (box : PixelBox) (landmarks : List Landmark) (width height : Nat) :
    Prop where
  across : 0 ≤ box.x1 ∧ box.x1 < box.x2 ∧ box.x2 ≤ width
  down : 0 ≤ box.y1 ∧ box.y1 < box.y2 ∧ box.y2 ≤ height
  columns : ∀ p ∈ landmarks, 0 ≤ p.x → p.x < 1 →
    box.x1 ≤ ⌊p.x * (width : ℚ)⌋ ∧ ⌊p.x * (width : ℚ)⌋ < box.x2
  rows : ∀ p ∈ landmarks, 0 ≤ p.y → p.y < 1 →
    box.y1 ≤ ⌊p.y * (height : ℚ)⌋ ∧ ⌊p.y * (height : ℚ)⌋ < box.y2

section
variable {landmarks : List Landmark} {width height : Nat} {box : PixelBox}

theorem extractFaceBbox_cons {p : Landmark} {ps : List Landmark} :
    extractFaceBbox (p :: ps) width height = some box →
      box.Frames (p :: ps) width height := by
  intro h
  simp only [extractFaceBbox] at h
  split at h
  · cases h
  · rename_i happart
    cases h
    have hx := not_le.mp fun hle => happart (.inl hle)
    have hy := not_le.mp fun hle => happart (.inr hle)
    have hwidth := (paddedSide_lt_iff.mp hx).1
    have hheight := (paddedSide_lt_iff.mp hy).1
    refine ⟨⟨le_max_left _ _, hx, min_le_left _ _⟩, ⟨le_max_left _ _, hy, min_le_left _ _⟩,
      ?_, ?_⟩
    · intro q hq hnonneg hlt
      have hmem : q.x ∈ p.x :: ps.map (·.x) := List.mem_map_of_mem (f := (·.x)) hq
      exact paddedSide_contains (least_le hmem) (le_greatest hmem) hnonneg hlt hwidth
    · intro q hq hnonneg hlt
      have hmem : q.y ∈ p.y :: ps.map (·.y) := List.mem_map_of_mem (f := (·.y)) hq
      exact paddedSide_contains (least_le hmem) (le_greatest hmem) hnonneg hlt hheight

theorem extractFaceBbox_isSome_iff :
    (extractFaceBbox landmarks width height).isSome ↔
      Reaches (landmarks.map (·.x)) width ∧ Reaches (landmarks.map (·.y)) height := by
  cases landmarks with
  | nil => exact iff_of_false (by simp [extractFaceBbox]) fun h => by simp [Reaches] at h
  | cons p ps =>
    rw [List.map_cons, List.map_cons, ← paddedSide_lt_iff, ← paddedSide_lt_iff]
    simp only [extractFaceBbox]
    split
    · rename_i hempty
      exact iff_of_false (by simp) fun h =>
        hempty.elim (fun hx => absurd h.1 (not_lt.mpr hx)) fun hy => absurd h.2 (not_lt.mpr hy)
    · rename_i happart
      exact iff_of_true rfl ⟨not_le.mp fun hx => happart (.inl hx),
        not_le.mp fun hy => happart (.inr hy)⟩

/-- **The face box**: there is one exactly where the landmarks reach the frame on both axes, and it
    frames them. It lies in the frame, and no landmark in the frame is outside it. -/
theorem faceBox_frames (landmarks : List Landmark) (width height : Nat) :
    ((∃ box, extractFaceBbox landmarks width height = some box) ↔
        Reaches (landmarks.map (·.x)) width ∧ Reaches (landmarks.map (·.y)) height) ∧
      ∀ box, extractFaceBbox landmarks width height = some box →
        box.Frames landmarks width height := by
  rw [← Option.isSome_iff_exists]
  refine ⟨extractFaceBbox_isSome_iff, ?_⟩
  intro box hbox
  cases landmarks with
  | nil => cases hbox
  | cons p ps => exact extractFaceBbox_cons hbox

/-- A face half out of the frame, in a frame of 640 by 480. -/
example : extractFaceBbox [⟨-1 / 10, 2 / 10, 0⟩, ⟨1 / 10, 4 / 10, 0⟩] 640 480 =
    some ⟨0, 68, 83, 220⟩ := by decide +kernel

end

end ProctorEngine.Inference
