import Mathlib.Analysis.Real.Pi.Irrational
import SpatialPlatform.Core.Geometry.RadialInverse

/-!
# The divisions of the camera models

`DistortUnit` and `UndistortUnit` divide by what their parameters and their
iterations give. To see whether one of them divides by zero, the same code is
run on `Divided` numbers, which have no rounding and remember a division by
zero: whatever is computed from its result is lost as well.
-/

namespace SpatialPlatform.Core.Geometry

/-- A number without rounding, or what is left of one after a division by zero. -/
inductive Divided where
  | number (a : ℝ)
  | byZero

namespace Divided

def map (f : ℝ → ℝ) : Divided → Divided
  | number a => number (f a)
  | byZero => byZero

def map₂ (f : ℝ → ℝ → ℝ) : Divided → Divided → Divided
  | number a, number b => number (f a b)
  | _, _ => byZero

/-- What is left after a division by zero compares with nothing, as NaN does not. -/
def rel (r : ℝ → ℝ → Prop) : Divided → Divided → Prop
  | number a, number b => r a b
  | _, _ => False

open Classical in
noncomputable def divide : Divided → Divided → Divided
  | number a, number b => if b = 0 then byZero else number (a / b)
  | _, _ => byZero

end Divided

noncomputable instance : DoubleTrig Divided where
  add := Divided.map₂ (· + ·)
  mul := Divided.map₂ (· * ·)
  sub := Divided.map₂ (· - ·)
  neg := Divided.map (- ·)
  div := Divided.divide
  lt := Divided.rel (· < ·)
  le := Divided.rel (· ≤ ·)
  ofScientific m s e := .number (OfScientific.ofScientific m s e)
  intCast n := .number n
  decidableLT := Classical.decRel _
  decidableLE := Classical.decRel _
  isFinite
    | .number _ => true
    | .byZero => false
  formatNumber _ := ""
  sqrt := Divided.map Real.sqrt
  tan := Divided.map Real.tan
  atan := Divided.map Real.arctan
  acos := Divided.map Real.arccos
  max := .number (DoubleTrig.max : ℝ)

namespace Divided

@[simp] theorem number_add (a b : ℝ) : number a + number b = number (a + b) := rfl

@[simp] theorem number_sub (a b : ℝ) : number a - number b = number (a - b) := rfl

@[simp] theorem number_mul (a b : ℝ) : number a * number b = number (a * b) := rfl

@[simp] theorem neg_number (a : ℝ) : -number a = number (-a) := rfl

@[simp] theorem number_lt {a b : ℝ} : number a < number b ↔ a < b := Iff.rfl

@[simp] theorem sqrt_number (a : ℝ) : DoubleArith.sqrt (number a) = number (Real.sqrt a) := rfl

@[simp] theorem tan_number (a : ℝ) : DoubleTrig.tan (number a) = number (Real.tan a) := rfl

@[simp] theorem atan_number (a : ℝ) : DoubleTrig.atan (number a) = number (Real.arctan a) := rfl

@[simp] theorem ofScientific_eq (m : Nat) (s : Bool) (e : Nat) :
    (OfScientific.ofScientific m s e : Divided) = number (OfScientific.ofScientific m s e) := rfl

theorem number_div (a : ℝ) {b : ℝ} (hb : b ≠ 0) : number a / number b = number (a / b) := if_neg hb

@[simp] theorem number_div_zero (a : ℝ) : number a / number 0 = byZero := if_pos rfl

/-- What is left after a division by zero is passed on. -/
@[simp] theorem byZero_add (a : Divided) : byZero + a = byZero := rfl

@[simp] theorem byZero_sub (a : Divided) : byZero - a = byZero := rfl

@[simp] theorem byZero_mul (a : Divided) : byZero * a = byZero := rfl

@[simp] theorem byZero_div (a : Divided) : byZero / a = byZero := rfl

@[simp] theorem sub_byZero (a : Divided) : a - byZero = byZero := by cases a <;> rfl

@[simp] theorem mul_byZero (a : Divided) : a * byZero = byZero := by cases a <;> rfl

@[simp] theorem tan_byZero : DoubleTrig.tan byZero = byZero := rfl

@[simp] theorem not_byZero_lt (a : Divided) : ¬ byZero < a := by
  cases a <;> exact False.elim

end Divided

/-- A point of which a coordinate comes from a division by zero. -/
def DividesByZero (x : Divided × Divided) : Prop := x.1 = .byZero ∨ x.2 = .byZero

/-- A point whose coordinates are numbers. -/
def exactly (x : ℝ × ℝ) : Divided × Divided := (.number x.1, .number x.2)

theorem not_dividesByZero_exactly (x : ℝ × ℝ) : ¬ DividesByZero (exactly x) := by
  rintro (h | h) <;> cases h

@[simp] theorem norm2_exactly (x : ℝ × ℝ) : norm2 (exactly x) = .number (norm2 x) := rfl

@[simp] theorem scale2_exactly (x : ℝ × ℝ) (factor : ℝ) :
    scale2 (exactly x) (.number factor) = exactly (scale2 x factor) := rfl

theorem dividesByZero_scale2 (x : Divided × Divided) : DividesByZero (scale2 x .byZero) :=
  .inl (Divided.mul_byZero x.1)

namespace Distortion

open Divided (number byZero)

/-- The same distortion with coefficients that remember divisions. -/
def watched : Distortion ℝ → Distortion Divided
  | pinhole => .pinhole
  | openCvRadial k1 k2 p1 p2 k3 =>
      .openCvRadial (.number k1) (.number k2) (.number p1) (.number p2) (.number k3)
  | openCvFisheye k1 k2 k3 k4 => .openCvFisheye (.number k1) (.number k2) (.number k3) (.number k4)
  | fov omega => .fov (.number omega)

/-! ## `DistortUnit`

One division is by a number that no check keeps from zero. -/

/-- No tangent of a field of view by which a point is divided is zero. -/
def DistortsAt : Distortion ℝ → ℝ × ℝ → Prop
  | fov omega, x => norm2 x < 1e-12 ∨ Real.tan (half omega) ≠ 0
  | _, _ => True

theorem norm2_ne_zero {x : ℝ × ℝ} (h : ¬ norm2 x < (1e-12 : ℝ)) : norm2 x ≠ 0 := by
  intro hzero
  norm_num [hzero] at h

/-- The divisor of `DistortUnit` for a field of view. -/
theorem fov_divisor (omega : ℝ) {r : ℝ} (hr : r ≠ 0) :
    (2.0 : ℝ) * r * Real.tan ((0.5 : ℝ) * omega) = 0 ↔ Real.tan (omega / 2) = 0 := by
  rw [show (0.5 : ℝ) * omega = omega / 2 by norm_num; ring]
  norm_num [hr]

/-- Only the field of view divides by something else than the length of a point. -/
theorem distortUnit_watched {distortion : Distortion ℝ} {x : ℝ × ℝ} (h : distortion.DistortsAt x) :
    distortion.watched.distortUnit (exactly x) = exactly (distortion.distortUnit x) := by
  cases distortion with
  | pinhole => rfl
  | openCvRadial k1 k2 p1 p2 k3 => rfl
  | openCvFisheye k1 k2 k3 k4 =>
    unfold watched distortUnit
    simp only [norm2_exactly, Divided.ofScientific_eq, Divided.number_lt]
    split
    next => rfl
    next hlong =>
      simp only [Divided.atan_number, Divided.number_mul, Divided.number_add,
        Divided.number_div _ (norm2_ne_zero hlong)]
      rfl
  | fov omega =>
    unfold watched distortUnit
    simp only [norm2_exactly, Divided.ofScientific_eq, Divided.number_lt]
    split
    next => rfl
    next hlong =>
      have hdivisor := mt (fov_divisor omega (norm2_ne_zero hlong)).mp (h.resolve_left hlong)
      simp only [Divided.tan_number, Divided.number_mul, Divided.number_div _ hdivisor]
      rfl

/-- A field of view with a tangent of zero divides by zero at every point that is not in the centre. -/
theorem distortUnit_dividesByZero {distortion : Distortion ℝ} {x : ℝ × ℝ}
    (h : ¬ distortion.DistortsAt x) : DividesByZero (distortion.watched.distortUnit (exactly x)) := by
  cases distortion with
  | pinhole => exact absurd trivial h
  | openCvRadial k1 k2 p1 p2 k3 => exact absurd trivial h
  | openCvFisheye k1 k2 k3 k4 => exact absurd trivial h
  | fov omega =>
    simp only [DistortsAt, not_or, not_not] at h
    obtain ⟨hlong, htan⟩ := h
    unfold watched distortUnit
    simp only [norm2_exactly, Divided.ofScientific_eq, Divided.number_lt, if_neg hlong,
      Divided.tan_number, Divided.number_mul, (fov_divisor omega (norm2_ne_zero hlong)).mpr htan,
      Divided.number_div_zero]
    exact dividesByZero_scale2 _

/-! ## `UndistortUnit`

Newton's method is run on the watched numbers and on the reals side by side. By
induction over the rounds the two agree up to the first division by zero, from
which nothing comes back; the fixed-point iteration divides by nothing but what
the distortion divides by. -/

/-- The equation of the angle, as Newton's method computes it. -/
noncomputable def excess (k1 k2 k3 k4 rd theta : ℝ) : ℝ :=
  theta * (1.0 + k1 * (theta * theta) + k2 * (theta * theta * (theta * theta)) +
    k3 * (theta * theta * (theta * theta) * (theta * theta)) +
    k4 * (theta * theta * (theta * theta) * (theta * theta * (theta * theta)))) - rd

/-- The derivative that Newton's method divides by. -/
noncomputable def slope (k1 k2 k3 k4 theta : ℝ) : ℝ :=
  1 + 3 * k1 * theta ^ 2 + 5 * k2 * theta ^ 4 + 7 * k3 * theta ^ 6 + 9 * k4 * theta ^ 8

theorem slope_eq (k1 k2 k3 k4 theta : ℝ) :
    (1.0 : ℝ) + (3.0 : ℝ) * k1 * (theta * theta) + (5.0 : ℝ) * k2 * (theta * theta * (theta * theta)) +
      (7.0 : ℝ) * k3 * (theta * theta * (theta * theta) * (theta * theta)) +
      (9.0 : ℝ) * k4 * (theta * theta * (theta * theta) * (theta * theta * (theta * theta))) =
        slope k1 k2 k3 k4 theta := by
  unfold slope
  norm_num
  ring

/-- The next angle of Newton's method. -/
noncomputable def newtonNext (k1 k2 k3 k4 rd theta : ℝ) : ℝ :=
  theta - excess k1 k2 k3 k4 rd theta / slope k1 k2 k3 k4 theta

/-- The step to it is small enough to be the last. -/
def NewtonStops (k1 k2 k3 k4 rd theta : ℝ) : Prop :=
  |excess k1 k2 k3 k4 rd theta / slope k1 k2 k3 k4 theta| < 1e-12

noncomputable instance (k1 k2 k3 k4 rd : ℝ) : DecidablePred (NewtonStops k1 k2 k3 k4 rd) :=
  Classical.decPred _

theorem absolute_real (a : ℝ) : absolute a = |a| := by
  unfold absolute
  split
  next h => exact (abs_of_neg (by norm_num at h; exact h)).symm
  next h => exact (abs_of_nonneg (by norm_num at h; exact h)).symm

theorem absolute_number (a : ℝ) : absolute (Divided.number a) = .number |a| := by
  rw [← absolute_real]
  simp only [absolute, Divided.ofScientific_eq, Divided.number_lt, Divided.neg_number]
  split <;> rfl

theorem absolute_byZero : absolute Divided.byZero = .byZero := if_neg (Divided.not_byZero_lt _)

theorem newton_succ (k1 k2 k3 k4 rd theta : ℝ) (rounds : Nat) :
    newton k1 k2 k3 k4 rd (rounds + 1) theta =
      if NewtonStops k1 k2 k3 k4 rd theta then newtonNext k1 k2 k3 k4 rd theta
      else newton k1 k2 k3 k4 rd rounds (newtonNext k1 k2 k3 k4 rd theta) := by
  rw [newton]
  simp only [slope_eq, absolute_real]
  rfl

theorem newton_succ_number {k1 k2 k3 k4 theta : ℝ} (rd : ℝ) (rounds : Nat)
    (hslope : slope k1 k2 k3 k4 theta ≠ 0) :
    newton (number k1) (number k2) (number k3) (number k4) (number rd) (rounds + 1)
        (number theta) =
      if NewtonStops k1 k2 k3 k4 rd theta then number (newtonNext k1 k2 k3 k4 rd theta)
      else newton (number k1) (number k2) (number k3) (number k4) (number rd) rounds
        (number (newtonNext k1 k2 k3 k4 rd theta)) := by
  rw [newton]
  simp only [Divided.ofScientific_eq, Divided.number_mul, Divided.number_add, Divided.number_sub,
    slope_eq, Divided.number_div _ hslope, absolute_number, Divided.number_lt]
  rfl

/-- Once Newton's method has divided by zero, no angle comes out of it. -/
theorem newton_byZero (k1 k2 k3 k4 rd : Divided) (rounds : Nat) :
    newton k1 k2 k3 k4 rd rounds byZero = byZero := by
  induction rounds with
  | zero => rfl
  | succ rounds ih =>
    rw [newton]
    simp only [Divided.byZero_mul, Divided.byZero_sub, Divided.byZero_div, absolute_byZero,
      Divided.not_byZero_lt, if_false, ih]

theorem newton_succ_byZero {k1 k2 k3 k4 theta : ℝ} (rd : ℝ) (rounds : Nat)
    (hslope : slope k1 k2 k3 k4 theta = 0) :
    newton (number k1) (number k2) (number k3) (number k4) (number rd) (rounds + 1)
      (number theta) = byZero := by
  rw [newton]
  simp only [Divided.ofScientific_eq, Divided.number_mul, Divided.number_add, Divided.number_sub,
    slope_eq, hslope, Divided.number_div_zero, absolute_byZero, Divided.not_byZero_lt, if_false,
    Divided.sub_byZero, newton_byZero]

/-- The angles at which Newton's method divides. -/
noncomputable def newtonAngles (k1 k2 k3 k4 rd : ℝ) (rounds : Nat) (theta : ℝ) : List ℝ :=
  Lib.Approach.visited (NewtonStops k1 k2 k3 k4 rd) (newtonNext k1 k2 k3 k4 rd) rounds theta

theorem newton_number {k1 k2 k3 k4 rd : ℝ} {rounds : Nat} {theta : ℝ}
    (h : ∀ angle ∈ newtonAngles k1 k2 k3 k4 rd rounds theta, slope k1 k2 k3 k4 angle ≠ 0) :
    newton (number k1) (number k2) (number k3) (number k4) (number rd) rounds (number theta) =
      number (newton k1 k2 k3 k4 rd rounds theta) := by
  induction rounds generalizing theta with
  | zero => rfl
  | succ rounds ih =>
    rw [newtonAngles, Lib.Approach.visited, List.forall_mem_cons] at h
    rw [newton_succ_number rd rounds h.1, newton_succ]
    split
    next => rfl
    next hgo =>
      rw [if_neg hgo] at h
      exact ih h.2

theorem newton_eq_byZero {k1 k2 k3 k4 rd : ℝ} {rounds : Nat} {theta : ℝ}
    (h : ∃ angle ∈ newtonAngles k1 k2 k3 k4 rd rounds theta, slope k1 k2 k3 k4 angle = 0) :
    newton (number k1) (number k2) (number k3) (number k4) (number rd) rounds (number theta) =
      byZero := by
  induction rounds generalizing theta with
  | zero =>
    obtain ⟨_, hmem, -⟩ := h
    cases hmem
  | succ rounds ih =>
    by_cases hslope : slope k1 k2 k3 k4 theta = 0
    · exact newton_succ_byZero rd rounds hslope
    rw [newtonAngles, Lib.Approach.visited, List.exists_mem_cons_iff] at h
    have hlater := h.resolve_left hslope
    rw [newton_succ_number rd rounds hslope]
    split
    next hstop => simp [hstop] at hlater
    next hgo =>
      rw [if_neg hgo] at hlater
      exact ih hlater

/-- A field of view is not zero, and the derivative of a fisheye is not zero at
any of the first fifty angles of Newton's method up to the one at which it
stops. -/
def UndistortsAt : Distortion ℝ → ℝ × ℝ → Prop
  | fov omega, xd => norm2 xd < 1e-12 ∨ omega ≠ 0
  | openCvFisheye k1 k2 k3 k4, xd => norm2 xd < 1e-12 ∨
      ∀ n < 50, (∀ m < n, ¬ NewtonStops k1 k2 k3 k4 (norm2 xd)
          ((newtonNext k1 k2 k3 k4 (norm2 xd))^[m] (norm2 xd))) →
        slope k1 k2 k3 k4 ((newtonNext k1 k2 k3 k4 (norm2 xd))^[n] (norm2 xd)) ≠ 0
  | _, _ => True

/-- The last condition, for the list of these angles. -/
theorem forall_newtonAngles_iff {k1 k2 k3 k4 rd : ℝ} {rounds : Nat} {theta : ℝ} :
    (∀ angle ∈ newtonAngles k1 k2 k3 k4 rd rounds theta, slope k1 k2 k3 k4 angle ≠ 0) ↔
      ∀ n < rounds, (∀ m < n, ¬ NewtonStops k1 k2 k3 k4 rd ((newtonNext k1 k2 k3 k4 rd)^[m] theta)) →
        slope k1 k2 k3 k4 ((newtonNext k1 k2 k3 k4 rd)^[n] theta) ≠ 0 := by
  simp only [newtonAngles, Lib.Approach.mem_visited_iff]
  constructor
  · intro h n hn hgoes
    exact h _ ⟨n, hn, rfl, hgoes⟩
  · rintro h _ ⟨n, hn, rfl, hgoes⟩
    exact h n hn hgoes

/-- Where a distortion does not divide by zero, neither does its fixed-point iteration. -/
theorem fixedPoint_watched {distortion : Distortion ℝ} (h : ∀ x, distortion.DistortsAt x) (xd : ℝ × ℝ)
    (rounds : Nat) (x : ℝ × ℝ) :
    distortion.watched.fixedPoint (exactly xd) rounds (exactly x) =
      exactly (distortion.fixedPoint xd rounds x) := by
  induction rounds generalizing x with
  | zero => rfl
  | succ rounds ih =>
    rw [fixedPoint_eq_settle, fixedPoint_eq_settle, Lib.Approach.settle, Lib.Approach.settle,
      ← fixedPoint_eq_settle, ← fixedPoint_eq_settle]
    have hresidual : distortion.watched.residual (exactly xd) (exactly x) =
        exactly (distortion.residual xd x) := by
      rw [residual, distortUnit_watched (h x)]
      rfl
    have hcorrect : distortion.watched.correct (exactly xd) (exactly x) =
        exactly (distortion.correct xd x) := by
      rw [correct, hresidual]
      rfl
    have hinverts : distortion.watched.Inverts (exactly xd) (exactly x) ↔ distortion.Inverts xd x := by
      rw [Inverts, hresidual]
      exact Iff.rfl
    simp only [hinverts, hcorrect, ih]
    split <;> rfl

theorem undistortUnit_watched {distortion : Distortion ℝ} {xd : ℝ × ℝ} (h : distortion.UndistortsAt xd) :
    distortion.watched.undistortUnit (exactly xd) = exactly (distortion.undistortUnit xd) := by
  cases distortion with
  | pinhole => rfl
  | openCvRadial k1 k2 p1 p2 k3 =>
    have hsafe : ∀ x, (openCvRadial k1 k2 p1 p2 k3).DistortsAt x := fun _ => trivial
    exact fixedPoint_watched hsafe xd 100 xd
  | openCvFisheye k1 k2 k3 k4 =>
    unfold watched undistortUnit
    simp only [norm2_exactly, Divided.ofScientific_eq, Divided.number_lt]
    split
    next => rfl
    next hlong =>
      have hangles := forall_newtonAngles_iff.mpr (h.resolve_left hlong)
      simp only [newton_number hangles, Divided.tan_number,
        Divided.number_div _ (norm2_ne_zero hlong)]
      rfl
  | fov omega =>
    unfold watched undistortUnit
    simp only [norm2_exactly, Divided.ofScientific_eq, Divided.number_lt]
    split
    next => rfl
    next hlong =>
      simp only [Divided.tan_number, Divided.number_mul, Divided.atan_number,
        Divided.number_div _ (h.resolve_left hlong), Divided.number_div _ (norm2_ne_zero hlong)]
      rfl

theorem undistortUnit_dividesByZero {distortion : Distortion ℝ} {xd : ℝ × ℝ}
    (h : ¬ distortion.UndistortsAt xd) :
    DividesByZero (distortion.watched.undistortUnit (exactly xd)) := by
  cases distortion with
  | pinhole => exact absurd trivial h
  | openCvRadial k1 k2 p1 p2 k3 => exact absurd trivial h
  | openCvFisheye k1 k2 k3 k4 =>
    obtain ⟨hlong, hangles⟩ := not_or.mp h
    rw [← forall_newtonAngles_iff] at hangles
    push Not at hangles
    unfold watched undistortUnit
    simp only [norm2_exactly, Divided.ofScientific_eq, Divided.number_lt, if_neg hlong,
      newton_eq_byZero hangles, Divided.tan_byZero, Divided.byZero_div]
    exact dividesByZero_scale2 _
  | fov omega =>
    obtain ⟨hlong, homega⟩ := not_or.mp h
    rw [not_not] at homega
    unfold watched undistortUnit
    simp only [norm2_exactly, Divided.ofScientific_eq, Divided.number_lt, if_neg hlong, homega,
      Divided.tan_number, Divided.number_mul, Divided.atan_number, Divided.number_div_zero,
      Divided.byZero_div]
    exact dividesByZero_scale2 _

/-! ## What that says of the coefficients

The conditions above in terms of the parameters: the zeros of the derivative of
a fisheye, and an omega that is zero. -/

/-- A fisheye whose derivative has no zero never divides by zero. -/
theorem undistortsAt_of_slope_ne_zero {k1 k2 k3 k4 : ℝ} (h : ∀ theta, slope k1 k2 k3 k4 theta ≠ 0)
    (xd : ℝ × ℝ) : (openCvFisheye k1 k2 k3 k4).UndistortsAt xd :=
  .inr fun _ _ _ => h _

/-- A zero of the derivative is met at once by the points that are as far from the centre. -/
theorem not_undistortsAt_of_slope_eq_zero {k1 k2 k3 k4 theta : ℝ} (hlong : 1e-12 ≤ theta)
    (h : slope k1 k2 k3 k4 theta = 0) : ¬ (openCvFisheye k1 k2 k3 k4).UndistortsAt (theta, 0) := by
  have hnorm : norm2 (theta, (0 : ℝ)) = theta := by
    have hpos : (0 : ℝ) ≤ theta := le_trans (by norm_num) hlong
    rw [norm2_real]
    simp [hpos]
  rintro (hshort | hangles)
  · rw [hnorm] at hshort
    exact absurd hlong (not_le.mpr hshort)
  · rw [hnorm] at hangles
    exact hangles 0 (by norm_num) (by grind) h

/-- A field of view that is a fraction, as every `double` is, has a tangent of zero only if it is zero. -/
theorem tan_half_eq_zero_iff (omega : ℚ) : Real.tan ((omega : ℝ) / 2) = 0 ↔ omega = 0 := by
  constructor
  · intro h
    obtain ⟨k, hk⟩ := Real.tan_eq_zero_iff.mp h
    by_contra homega
    have hk0 : k ≠ 0 := by
      rintro rfl
      have hzero : (omega : ℝ) = 0 := by
        simp only [Int.cast_zero, zero_mul, zero_div] at hk
        linarith
      exact homega (by exact_mod_cast hzero)
    -- otherwise the circle would have a fraction for its measure
    refine irrational_pi.ne_rat (omega / k) ?_
    have hkr : (k : ℝ) ≠ 0 := by exact_mod_cast hk0
    push_cast
    field_simp
    linarith
  · rintro rfl
    simp

end Distortion

namespace CameraModel

/-- When the two directions of a camera model divide by zero. -/
theorem divides_iff (model : CameraModel ℝ) (x : ℝ × ℝ) :
    (¬ DividesByZero (model.distortion.watched.distortUnit (exactly x)) ↔
        model.distortion.DistortsAt x) ∧
      (¬ DividesByZero (model.distortion.watched.undistortUnit (exactly x)) ↔
        model.distortion.UndistortsAt x) := by
  constructor
  · constructor
    · exact not_imp_comm.mp Distortion.distortUnit_dividesByZero
    · intro h
      rw [Distortion.distortUnit_watched h]
      exact not_dividesByZero_exactly _
  · constructor
    · exact not_imp_comm.mp Distortion.undistortUnit_dividesByZero
    · intro h
      rw [Distortion.undistortUnit_watched h]
      exact not_dividesByZero_exactly _

/-- The factory of the field of view accepts zero, and then both directions divide by it. -/
theorem fov_zero_divides :
    ∃ model, fov twoPixels [0] = .ok model ∧
      DividesByZero (model.distortion.watched.distortUnit (exactly (1, 0))) ∧
      DividesByZero (model.distortion.watched.undistortUnit (exactly (1, 0))) := by
  have hlong : ¬ norm2 ((1, 0) : ℝ × ℝ) < 1e-12 := by
    rw [Distortion.norm2_real]
    norm_num
  have hmodel : fov twoPixels [0] = .ok ⟨.fov 0, twoPixels, twoPixels_valid⟩ := by
    simp only [fov, withIntrinsics, twoPixels_valid, dif_pos]
    rfl
  refine ⟨_, hmodel, ?_, ?_⟩
  · apply Distortion.distortUnit_dividesByZero
    rintro (h | h)
    · exact hlong h
    · simp at h
  · apply Distortion.undistortUnit_dividesByZero
    rintro (h | h)
    · exact hlong h
    · exact h rfl

end CameraModel

end SpatialPlatform.Core.Geometry
