import Mathlib.Algebra.Order.Floor.Ring
import RaceFrame.Schema.Rational

/-!
# Sizes of images in the worker

`validate_image_header` and `resize_image`. The longer edge of a large image is
scaled to the limit for face detection, and the shorter one is truncated, to
nothing when the image is too narrow. Scaling is exact here.
-/

namespace RaceFrame

/-! ## Admitted sizes -/

/-- The limits of the worker. -/
structure WorkerImageLimits where
  /-- `WORKER_MAX_IMAGE_PIXELS`. -/
  maxImagePixels : Nat
  /-- `WORKER_MAX_IMAGE_DIMENSION`. -/
  maxImageDimension : Nat

/-- What Pillow raises. -/
inductive PillowError
  /-- `DecompressionBombError` and `DecompressionBombWarning`. -/
  | decompressionBomb
  /-- `UnidentifiedImageError`, `OSError` and `ValueError`. -/
  | invalid

/-- An image that Pillow opens. -/
structure OpenedImage where
  width : ℤ
  height : ℤ
  /-- `n_frames`, if the image has it. -/
  frames : Option ℤ
  /-- What `verify` raises. -/
  verify : Except PillowError Unit

/-- The digits of a number with a comma in front of every three, in reverse. -/
def groupDigits : Text → Text
  | a :: b :: c :: d :: rest => a :: b :: c :: ',' :: groupDigits (d :: rest)
  | digits => digits

/-- `f"{n:,}"`. -/
def formatThousands (n : Nat) : Text := (groupDigits (Nat.toDigits 10 n).reverse).reverse

/-- The message of the `PermanentJobError` for what Pillow raises. -/
def PillowError.message : PillowError → Text
  | .decompressionBomb => "Image exceeds the safe decompression limit.".toList
  | .invalid => "Image header is invalid or the image is corrupt.".toList

/-- `validate_image_header`: the size of the image, or the message of a `PermanentJobError`. -/
def validateImageHeader (limits : WorkerImageLimits) (image : Except PillowError OpenedImage) :
    Except Text (ℤ × ℤ) := do
  let opened ← image.mapError (·.message)
  let frameCount := match opened.frames with
    | none | some 0 => 1
    | some n => n
  if frameCount ≠ 1 then throw "Animated or multi-frame images are not accepted.".toList
  if opened.width ≤ 0 ∨ opened.height ≤ 0 then throw "Image dimensions are invalid.".toList
  if limits.maxImageDimension < max opened.width opened.height then
    throw ("Image dimensions exceed the ".toList ++ Nat.toDigits 10 limits.maxImageDimension ++
      "px worker limit.".toList)
  if limits.maxImagePixels < opened.width * opened.height then
    throw ("Image exceeds the ".toList ++ formatThousands limits.maxImagePixels ++
      "-pixel worker limit.".toList)
  opened.verify.mapError (·.message)
  return (opened.width, opened.height)

example : formatThousands 40000000 = "40,000,000".toList := by decide +kernel

private theorem guard_eq_ok {condition : Prop} [Decidable condition] {message : Text}
    {rest : Except Text (ℤ × ℤ)} {size : ℤ × ℤ}
    (h : (if condition then throw message else rest) = .ok size) :
    ¬condition ∧ rest = .ok size := by
  by_cases hcondition : condition
  · rw [if_pos hcondition] at h
    cases h
  · rw [if_neg hcondition] at h
    exact ⟨hcondition, h⟩

/-- What the header admits. -/
structure AdmitsSize (limits : WorkerImageLimits) (width height : ℤ) : Prop where
  width_pos : 0 < width
  height_pos : 0 < height
  dimension : max width height ≤ limits.maxImageDimension
  pixels : width * height ≤ limits.maxImagePixels

theorem admitsSize_of_validateImageHeader {limits : WorkerImageLimits}
    {image : Except PillowError OpenedImage} {width height : ℤ}
    (h : validateImageHeader limits image = .ok (width, height)) :
    AdmitsSize limits width height := by
  cases image with
  | error e => cases h
  | ok opened =>
    obtain ⟨-, h⟩ := guard_eq_ok h
    obtain ⟨hpositive, h⟩ := guard_eq_ok h
    obtain ⟨hdimension, h⟩ := guard_eq_ok h
    obtain ⟨hpixels, h⟩ := guard_eq_ok h
    rw [not_or, not_le, not_le] at hpositive
    cases hverify : opened.verify with
    | error e =>
      rw [hverify] at h
      cases h
    | ok =>
      rw [hverify] at h
      cases h
      exact ⟨hpositive.1, hpositive.2, not_lt.mp hdimension, not_lt.mp hpixels⟩

/-! ## Resizing -/

/-- `resize_image`: the size of the image that it returns. -/
def resizeImage (maxEdge width height : ℤ) : ℤ × ℤ :=
  let longest := max height width
  if longest ≤ maxEdge then (width, height)
  else
    let scale : ℚ := maxEdge / longest
    (truncate (width * scale), truncate (height * scale))

/-- A size with both edges within a limit and not empty. -/
structure FitsEdge (maxEdge : ℤ) (size : ℤ × ℤ) : Prop where
  width_pos : 1 ≤ size.1
  width_le : size.1 ≤ maxEdge
  height_pos : 1 ≤ size.2
  height_le : size.2 ≤ maxEdge

section Scaling

variable {edge longest maxEdge : ℤ}

private theorem truncate_scaled (hedge : 0 ≤ edge) (hmax : 0 ≤ maxEdge) (hlongest : 0 < longest) :
    truncate ((edge : ℚ) * (maxEdge / longest)) = ⌊(edge : ℚ) * (maxEdge / longest)⌋ := by
  have hscale : (0 : ℚ) ≤ maxEdge / longest :=
    div_nonneg (Int.cast_nonneg hmax) (Int.cast_nonneg hlongest.le)
  rw [truncate, if_pos (mul_nonneg (Int.cast_nonneg hedge) hscale)]

/-- A scaled edge is not empty exactly when the edge is not too short for the longer one. -/
theorem one_le_truncate_scaled_iff (hedge : 0 ≤ edge) (hmax : 0 ≤ maxEdge)
    (hlongest : 0 < longest) :
    1 ≤ truncate ((edge : ℚ) * (maxEdge / longest)) ↔ longest ≤ edge * maxEdge := by
  have hpos : (0 : ℚ) < longest := Int.cast_pos.mpr hlongest
  rw [truncate_scaled hedge hmax hlongest, Int.le_floor, Int.cast_one, ← mul_div_assoc,
    one_le_div hpos, ← Int.cast_mul, Int.cast_le]

/-- A scaled edge is within the limit. -/
theorem truncate_scaled_le (hedge : 0 ≤ edge) (hmax : 0 ≤ maxEdge) (hlongest : 0 < longest)
    (hle : edge ≤ longest) : truncate ((edge : ℚ) * (maxEdge / longest)) ≤ maxEdge := by
  have hpos : (0 : ℚ) < longest := Int.cast_pos.mpr hlongest
  have hscaled : (edge : ℚ) * (maxEdge / longest) ≤ maxEdge := by
    rw [← mul_div_assoc, div_le_iff₀ hpos, mul_comm, ← Int.cast_mul, ← Int.cast_mul, Int.cast_le]
    exact mul_le_mul_of_nonneg_left hle hmax
  rw [truncate_scaled hedge hmax hlongest]
  exact Int.cast_le.mp ((Int.floor_le _).trans hscaled)

end Scaling

/-- An admitted image is resized to a size within the limit that is not empty exactly when its
longer edge is at most as many times its shorter one as the limit has pixels. -/
theorem resizeImage_fits_iff {limits : WorkerImageLimits} {image : Except PillowError OpenedImage}
    {width height maxEdge : ℤ} (hadmitted : validateImageHeader limits image = .ok (width, height))
    (hedge : 1 ≤ maxEdge) :
    FitsEdge maxEdge (resizeImage maxEdge width height) ↔
      max width height ≤ min width height * maxEdge := by
  obtain ⟨hwidth, hheight, -, -⟩ := admitsSize_of_validateImageHeader hadmitted
  have hmax : 0 ≤ maxEdge := by omega
  have hlongest : 0 < max height width := lt_max_of_lt_left hheight
  simp only [resizeImage]
  split
  next hsmall =>
    have hbounds := max_le_iff.mp hsmall
    refine iff_of_true ⟨hwidth, hbounds.2, hheight, hbounds.1⟩ ?_
    calc max width height = max height width := max_comm width height
      _ ≤ maxEdge := hsmall
      _ ≤ min width height * maxEdge := le_mul_of_one_le_left hmax (le_min hwidth hheight)
  next =>
    have hwidthFits := one_le_truncate_scaled_iff hwidth.le hmax hlongest
    have hheightFits := one_le_truncate_scaled_iff hheight.le hmax hlongest
    have hboth : max width height ≤ min width height * maxEdge ↔
        max height width ≤ width * maxEdge ∧ max height width ≤ height * maxEdge := by
      rw [max_comm, min_mul_of_nonneg _ _ hmax, le_min_iff]
    rw [hboth]
    constructor
    · rintro ⟨hw, -, hh, -⟩
      exact ⟨hwidthFits.mp hw, hheightFits.mp hh⟩
    · rintro ⟨hw, hh⟩
      exact ⟨hwidthFits.mpr hw, truncate_scaled_le hwidth.le hmax hlongest (le_max_right _ _),
        hheightFits.mpr hh, truncate_scaled_le hheight.le hmax hlongest (le_max_left _ _)⟩

/-- The limits of an empty environment. -/
def WorkerImageLimits.environment : WorkerImageLimits := ⟨40000000, 12000⟩

/-- An ordinary photo is resized within the edge. -/
theorem photo_fits : FitsEdge 1600 (resizeImage 1600 4000 3000) :=
  (@resizeImage_fits_iff .environment (.ok ⟨4000, 3000, none, .ok ()⟩) 4000 3000 1600
    (by decide +kernel) (by decide)).mpr (by decide)

theorem line_admitted_not_fits :
    validateImageHeader .environment (.ok ⟨1601, 1, none, .ok ()⟩) = .ok (1601, 1) ∧
      ¬FitsEdge 1600 (resizeImage 1600 1601 1) := by
  refine ⟨by decide +kernel, fun h => ?_⟩
  have hempty : (resizeImage 1600 1601 1).2 = 0 := by decide +kernel
  have hheight := h.height_pos
  rw [hempty] at hheight
  exact absurd hheight (by decide)

end RaceFrame
