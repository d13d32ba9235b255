import Mathlib.Data.List.Induction
import TileAtlas.Geometry.Extent
import TileAtlas.Proofs.Number.Comparison

/-!
Contract: the smallest extent of a set of points, in floats and in exact numbers.

Owns:
- `Extent.IsSmallest`, an extent that holds a set of points and lies within every
  other extent that does;
- `IsSmallest.stretch`, one more point, and `IsSmallest.foldl_stretch`, a list of
  them;
- `covers_cover`: what `Extent.cover` finds is the smallest extent of the finite
  points, and it finds none only if there are none;
- `cover_eq_scan`: the same comes out of a scan that begins with a box turned
  inside out and looks at one axis in the end.

Points that are not finite take no part, whatever their other coordinate is.
-/

namespace TileAtlas

namespace Extent

variable {α : Type} [Scalar α]

theorem contains_iff {extent : Extent α} {x y : α} :
    extent.contains x y = true ↔
      extent.minX ≤ x ∧ x ≤ extent.maxX ∧ extent.minY ≤ y ∧ y ≤ extent.maxY := by
  unfold contains
  simp only [Bool.and_eq_true, decide_eq_true_eq, and_assoc]

/-- No part of the extent lies outside the other. -/
structure IsWithin (extent other : Extent α) : Prop where
  west : other.minX ≤ extent.minX
  east : extent.maxX ≤ other.maxX
  south : other.minY ≤ extent.minY
  north : extent.maxY ≤ other.maxY

/-- The extent holds all points, and every extent that does is at least as
large on each side. -/
structure IsSmallest (extent : Extent α) (points : α × α → Prop) : Prop where
  holds : ∀ point, points point → extent.contains point.1 point.2 = true
  within : ∀ other : Extent α, (∀ point, points point → other.contains point.1 point.2 = true) →
    extent.IsWithin other

/-- All four sides are finite. -/
structure IsFinite (extent : Extent α) : Prop where
  minX : Scalar.isFinite extent.minX
  minY : Scalar.isFinite extent.minY
  maxX : Scalar.isFinite extent.maxX
  maxY : Scalar.isFinite extent.maxY

/-- A point that is finite on both axes. -/
def IsFinitePoint (point : α × α) : Prop := Scalar.isFinite point.1 ∧ Scalar.isFinite point.2

theorem IsSmallest.congr {extent : Extent α} {points others : α × α → Prop}
    (smallest : extent.IsSmallest points) (same : ∀ point, points point ↔ others point) :
    extent.IsSmallest others :=
  ⟨fun point isIn => smallest.holds point ((same point).mpr isIn),
    fun other holds => smallest.within other fun point isIn => holds point ((same point).mp isIn)⟩

theorem IsFinite.stretch {extent : Extent α} (finite : extent.IsFinite) {x y : α}
    (finiteX : Scalar.isFinite x) (finiteY : Scalar.isFinite y) : (extent.stretch x y).IsFinite := by
  have one {side coordinate chosen : α} (isSide : Scalar.isFinite side)
      (isCoordinate : Scalar.isFinite coordinate) (isOne : chosen = side ∨ chosen = coordinate) :
      Scalar.isFinite chosen := by
    rcases isOne with rfl | rfl <;> assumption
  exact ⟨one finite.minX finiteX (Scalar.smaller_eq_or _ _),
    one finite.minY finiteY (Scalar.smaller_eq_or _ _),
    one finite.maxX finiteX (Scalar.larger_eq_or _ _),
    one finite.maxY finiteY (Scalar.larger_eq_or _ _)⟩

theorem isSmallest_ofPoint {x y : α} (isNumberX : Scalar.isNumber x)
    (isNumberY : Scalar.isNumber y) : (ofPoint x y).IsSmallest fun point => point = (x, y) := by
  have selfX : x ≤ x := of_decide_eq_true isNumberX
  have selfY : y ≤ y := of_decide_eq_true isNumberY
  constructor
  · rintro point rfl
    exact contains_iff.mpr ⟨selfX, selfX, selfY, selfY⟩
  · intro other holds
    obtain ⟨west, east, south, north⟩ := contains_iff.mp (holds (x, y) rfl)
    exact ⟨west, east, south, north⟩

variable [OrderedScalar α]

theorem IsSmallest.stretch {extent : Extent α} {points : α × α → Prop}
    (smallest : extent.IsSmallest points) (finite : extent.IsFinite) {x y : α}
    (finiteX : Scalar.isFinite x) (finiteY : Scalar.isFinite y) :
    (extent.stretch x y).IsSmallest fun point => points point ∨ point = (x, y) := by
  have number {value : α} (isFinite : Scalar.isFinite value) : Scalar.isNumber value :=
    OrderedScalar.isNumber_of_isFinite isFinite
  have west := Scalar.smaller_le (number finite.minX) (number finiteX)
  have east := Scalar.le_larger (number finite.maxX) (number finiteX)
  have south := Scalar.smaller_le (number finite.minY) (number finiteY)
  have north := Scalar.le_larger (number finite.maxY) (number finiteY)
  constructor
  · rintro point (isOld | rfl)
    · obtain ⟨afterWest, beforeEast, afterSouth, beforeNorth⟩ :=
        contains_iff.mp (smallest.holds point isOld)
      exact contains_iff.mpr
        ⟨OrderedScalar.trans west.1 afterWest, OrderedScalar.trans beforeEast east.1,
          OrderedScalar.trans south.1 afterSouth, OrderedScalar.trans beforeNorth north.1⟩
    · exact contains_iff.mpr ⟨west.2, east.2, south.2, north.2⟩
  · intro other holds
    have old := smallest.within other fun point isOld => holds point (.inl isOld)
    obtain ⟨newWest, newEast, newSouth, newNorth⟩ := contains_iff.mp (holds (x, y) (.inr rfl))
    exact ⟨Scalar.le_smaller old.west newWest, Scalar.larger_le old.east newEast,
      Scalar.le_smaller old.south newSouth, Scalar.larger_le old.north newNorth⟩

theorem IsSmallest.foldl_stretch {extent : Extent α} {points : α × α → Prop}
    (smallest : extent.IsSmallest points) (finite : extent.IsFinite) {more : List (α × α)}
    (moreFinite : ∀ point ∈ more, IsFinitePoint point) :
    (more.foldl (fun sides point => sides.stretch point.1 point.2) extent).IsSmallest
      fun point => points point ∨ point ∈ more := by
  induction more generalizing extent points with
  | nil => exact smallest.congr fun point => by simp
  | cons point more inductionHypothesis =>
      rw [List.forall_mem_cons] at moreFinite
      obtain ⟨pointFinite, moreFinite⟩ := moreFinite
      rw [List.foldl_cons]
      refine (inductionHypothesis (smallest.stretch finite pointFinite.1 pointFinite.2)
        (finite.stretch pointFinite.1 pointFinite.2) moreFinite).congr fun other => ?_
      rw [List.mem_cons, or_assoc]

/-! ## Covering a list -/

/-- What has been covered once all `points` have been looked at. -/
def Covers (points : List (α × α)) : Option (Extent α) → Prop
  | none => ∀ point ∈ points, ¬IsFinitePoint point
  | some extent => extent.IsFinite ∧ (∃ point ∈ points, IsFinitePoint point) ∧
      extent.IsSmallest fun point => point ∈ points ∧ IsFinitePoint point

omit [OrderedScalar α] in
theorem addPoint_of_finite (covered : Option (Extent α)) {point : α × α}
    (finite : IsFinitePoint point) :
    addPoint covered point = some (match covered with
      | none => ofPoint point.1 point.2
      | some extent => extent.stretch point.1 point.2) := by
  unfold addPoint
  rw [if_pos (Bool.and_eq_true_iff.mpr finite)]
  cases covered <;> rfl

omit [OrderedScalar α] in
theorem addPoint_of_not_finite (covered : Option (Extent α)) {point : α × α}
    (infinite : ¬IsFinitePoint point) : addPoint covered point = covered :=
  if_neg fun both => infinite (Bool.and_eq_true_iff.mp both)

/-- One more point keeps what is known. -/
theorem Covers.addPoint {points : List (α × α)} {covered : Option (Extent α)}
    (known : Covers points covered) (point : α × α) :
    Covers (points ++ [point]) (addPoint covered point) := by
  have membership (other : α × α) : other ∈ points ++ [point] ↔ other ∈ points ∨ other = point := by
    rw [List.mem_append, List.mem_singleton]
  by_cases finite : IsFinitePoint point
  · rw [addPoint_of_finite covered finite]
    cases covered with
    | none =>
        have none : ∀ other ∈ points, ¬IsFinitePoint other := known
        have first := isSmallest_ofPoint (OrderedScalar.isNumber_of_isFinite finite.1)
          (OrderedScalar.isNumber_of_isFinite finite.2)
        refine ⟨⟨finite.1, finite.2, finite.1, finite.2⟩, ⟨point, by simp, finite⟩, ?_⟩
        refine first.congr fun other => ?_
        rw [membership]
        constructor
        · rintro rfl
          exact ⟨.inr rfl, finite⟩
        · rintro ⟨isIn | rfl, isFinite⟩
          · exact absurd isFinite (none other isIn)
          · rfl
    | some extent =>
        obtain ⟨isFinite, -, smallest⟩ := known
        refine ⟨isFinite.stretch finite.1 finite.2, ⟨point, by simp, finite⟩, ?_⟩
        refine (smallest.stretch isFinite finite.1 finite.2).congr fun other => ?_
        rw [membership]
        constructor
        · rintro (⟨isIn, otherFinite⟩ | rfl)
          · exact ⟨.inl isIn, otherFinite⟩
          · exact ⟨.inr rfl, finite⟩
        · rintro ⟨isIn | rfl, otherFinite⟩
          · exact .inl ⟨isIn, otherFinite⟩
          · exact .inr rfl
  · rw [addPoint_of_not_finite covered finite]
    have same (other : α × α) : (other ∈ points ++ [point] ∧ IsFinitePoint other) ↔
        other ∈ points ∧ IsFinitePoint other := by
      rw [membership]
      constructor
      · rintro ⟨isIn | rfl, otherFinite⟩
        · exact ⟨isIn, otherFinite⟩
        · exact absurd otherFinite finite
      · exact fun ⟨isIn, otherFinite⟩ => ⟨.inl isIn, otherFinite⟩
    cases covered with
    | none =>
        have none : ∀ other ∈ points, ¬IsFinitePoint other := known
        intro other isIn otherFinite
        exact none other ((same other).mp ⟨isIn, otherFinite⟩).1 otherFinite
    | some extent =>
        obtain ⟨isFinite, ⟨other, isOther, otherFinite⟩, smallest⟩ := known
        exact ⟨isFinite, ⟨other, List.mem_append_left _ isOther, otherFinite⟩,
          smallest.congr fun other => (same other).symm⟩

/-- By induction on the points, the last one first: `cover` looks at it last. -/
theorem covers_cover (points : List (α × α)) : Covers points (cover points) := by
  induction points using List.reverseRecOn with
  | nil => exact fun point isIn => absurd isIn List.not_mem_nil
  | append_singleton points point inductionHypothesis =>
      rw [cover, List.foldl_append]
      exact inductionHypothesis.addPoint point

theorem isSmallest_of_cover {points : List (α × α)} {extent : Extent α}
    (covered : cover points = some extent) :
    extent.IsSmallest fun point => point ∈ points ∧ IsFinitePoint point := by
  have known := covers_cover points
  rw [covered] at known
  exact known.2.2

theorem isSome_cover_iff {points : List (α × α)} :
    (cover points).isSome ↔ ∃ point ∈ points, IsFinitePoint point := by
  have known := covers_cover points
  cases covered : cover points with
  | none =>
      rw [covered] at known
      have none : ∀ point ∈ points, ¬IsFinitePoint point := known
      exact ⟨nofun, fun ⟨point, isIn, finite⟩ => absurd finite (none point isIn)⟩
  | some extent =>
      rw [covered] at known
      exact ⟨fun _ => known.2.1, fun _ => rfl⟩

/-! ## A scan without an empty state -/

/-- The sides of no point at all: each lies beyond all numbers, on the far
end. -/
def insideOut : Extent Float := ⟨1.0 / 0.0, 1.0 / 0.0, -(1.0 / 0.0), -(1.0 / 0.0)⟩

def scanPoint (sides : Extent Float) (point : Float × Float) : Extent Float :=
  if Scalar.isFinite point.1 && Scalar.isFinite point.2 then sides.stretch point.1 point.2
  else sides

/-- The smallest extent of the finite points, by a scan that tells from the
first axis alone whether there was one. -/
def scan (points : List (Float × Float)) : Option (Extent Float) :=
  let sides := points.foldl scanPoint insideOut
  if Scalar.isFinite sides.minX && Scalar.isFinite sides.maxX then some sides else none

theorem stretch_insideOut {x y : Float} (finiteX : Scalar.isFinite x)
    (finiteY : Scalar.isFinite y) : insideOut.stretch x y = ofPoint x y := by
  have number : Scalar.isNumber (1.0 / 0.0 : Float) ∧ Scalar.isNumber (-(1.0 / 0.0) : Float) := by
    decide +kernel
  obtain ⟨aboveX, belowX⟩ := Binary.lt_infinity finiteX
  obtain ⟨aboveY, belowY⟩ := Binary.lt_infinity finiteY
  unfold stretch insideOut ofPoint Scalar.smaller Scalar.larger
  simp only [if_pos number.1, if_pos number.2, if_pos aboveX, if_pos belowX, if_pos aboveY,
    if_pos belowY]

/-- The sides that stand for what has been covered. -/
def sidesOf : Option (Extent Float) → Extent Float
  | none => insideOut
  | some extent => extent

theorem scanPoint_sidesOf (covered : Option (Extent Float)) (point : Float × Float) :
    scanPoint (sidesOf covered) point = sidesOf (addPoint covered point) := by
  by_cases finite : IsFinitePoint point
  · rw [addPoint_of_finite covered finite, scanPoint, if_pos (Bool.and_eq_true_iff.mpr finite)]
    cases covered with
    | none => exact stretch_insideOut finite.1 finite.2
    | some extent => rfl
  · rw [addPoint_of_not_finite covered finite, scanPoint,
      if_neg fun both => finite (Bool.and_eq_true_iff.mp both)]

theorem foldl_scanPoint (points : List (Float × Float)) (covered : Option (Extent Float)) :
    points.foldl scanPoint (sidesOf covered) = sidesOf (points.foldl addPoint covered) := by
  induction points generalizing covered with
  | nil => rfl
  | cons point points inductionHypothesis =>
      rw [List.foldl_cons, List.foldl_cons, scanPoint_sidesOf, inductionHypothesis]

/-- One axis is enough: the sides become finite on both at the same point. -/
theorem cover_eq_scan (points : List (Float × Float)) : cover points = scan points := by
  have sides : points.foldl scanPoint insideOut = sidesOf (cover points) := foldl_scanPoint points none
  have known := covers_cover points
  unfold scan
  rw [sides]
  cases covered : cover points with
  | none =>
      have infinite : Scalar.isFinite insideOut.minX = false := by decide +kernel
      simp [sidesOf, infinite]
  | some extent =>
      rw [covered] at known
      simp [sidesOf, known.1.minX, known.1.maxX]

end Extent

end TileAtlas
