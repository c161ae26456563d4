import Mathlib.Data.Rat.Sqrt
import SpatialPlatform.Core.Reconstruction.Document

/-!
# Vectors and quaternions on doubles

`core/geometry/direction_math.h`, and of `core/geometry/quaternion.h` and
`core/geometry/se3.h` what works on plain arrays, with the operations of a
`double` in the order in which Eigen makes them. What IEEE 754 says of NaN is
`LawfulArith`; exact arithmetic has none.
-/

namespace SpatialPlatform.Core

/-- `double`, with all its operations. -/
class DoubleArith (R : Type) extends Double R, Sub R, Neg R, Div R where
  sqrt : R → R

/-- Comparisons with NaN are false, and NaN is passed on. What is not NaN is at most itself. -/
class LawfulArith (R : Type) [DoubleArith R] : Prop where
  le_self_of_isFinite {a : R} : Double.isFinite a = true → a ≤ a
  le_of_not_lt {a b : R} : a ≤ a → b ≤ b → ¬ a < b → b ≤ a
  lt_self {a b : R} : a < b → a ≤ a ∧ b ≤ b
  mul_self {a b : R} : a * b ≤ a * b → a ≤ a ∧ b ≤ b
  div_self {a b : R} : a / b ≤ a / b → a ≤ a ∧ b ≤ b
  half_self : (0.5 : R) ≤ 0.5

/-- Exact numbers; the root of what is not a square is rounded down. -/
instance : DoubleArith Rat where
  decidableLT := inferInstance
  decidableLE := inferInstance
  isFinite _ := true
  formatNumber q := toString q
  sqrt := Rat.sqrt

instance : LawfulArith Rat where
  le_self_of_isFinite _ := Rat.le_refl
  le_of_not_lt _ _ h := Rat.not_lt.mp h
  lt_self _ := ⟨Rat.le_refl, Rat.le_refl⟩
  mul_self _ := ⟨Rat.le_refl, Rat.le_refl⟩
  div_self _ := ⟨Rat.le_refl, Rat.le_refl⟩
  half_self := Rat.le_refl

namespace Geometry

variable {R : Type} [DoubleArith R]

/-! ## Vectors -/

/-- `Dot3`. -/
def dot3 (a b : Vector R 3) : R := a[0] * b[0] + a[1] * b[1] + a[2] * b[2]

/-- `Norm3`. -/
def norm3 (a : Vector R 3) : R := DoubleArith.sqrt (dot3 a a)

/-- `cross`. -/
def cross3 (a b : Vector R 3) : Vector R 3 :=
  #v[a[1] * b[2] - a[2] * b[1], a[2] * b[0] - a[0] * b[2], a[0] * b[1] - a[1] * b[0]]

def add3 (a b : Vector R 3) : Vector R 3 := #v[a[0] + b[0], a[1] + b[1], a[2] + b[2]]

def sub3 (a b : Vector R 3) : Vector R 3 := #v[a[0] - b[0], a[1] - b[1], a[2] - b[2]]

def neg3 (a : Vector R 3) : Vector R 3 := #v[-a[0], -a[1], -a[2]]

def scale3 (s : R) (a : Vector R 3) : Vector R 3 := #v[s * a[0], s * a[1], s * a[2]]

/-- Division of every coordinate. -/
def div3 (a : Vector R 3) (s : R) : Vector R 3 := #v[a[0] / s, a[1] / s, a[2] / s]

/-! ## Quaternions, scalar last -/

abbrev Quat (R : Type) := Vector R 4

def squaredNorm (q : Quat R) : R := q[0] * q[0] + q[1] * q[1] + q[2] * q[2] + q[3] * q[3]

/-- `Normalized`; Eigen leaves zero as it is. -/
def normalized (q : Quat R) : Quat R :=
  let z := squaredNorm q
  if (0.0 : R) < z then
    let n := DoubleArith.sqrt z
    #v[q[0] / n, q[1] / n, q[2] / n, q[3] / n]
  else q

/-- `Inverse`; Eigen gives zero for zero. -/
def inverse (q : Quat R) : Quat R :=
  let z := squaredNorm q
  if (0.0 : R) < z then #v[-q[0] / z, -q[1] / z, -q[2] / z, q[3] / z]
  else #v[0.0, 0.0, 0.0, 0.0]

/-- `operator*`. -/
def quatMul (a b : Quat R) : Quat R :=
  #v[a[3] * b[0] + a[0] * b[3] + a[1] * b[2] - a[2] * b[1],
    a[3] * b[1] + a[1] * b[3] + a[2] * b[0] - a[0] * b[2],
    a[3] * b[2] + a[2] * b[3] + a[0] * b[1] - a[1] * b[0],
    a[3] * b[3] - a[0] * b[0] - a[1] * b[1] - a[2] * b[2]]

/-- `RotateDirection`, and `Rotate`. -/
def rotateDirection (q : Quat R) (d : Vector R 3) : Vector R 3 :=
  let u : Vector R 3 := #v[q[0], q[1], q[2]]
  let uv := cross3 u d
  let uv := add3 uv uv
  add3 (add3 d (scale3 q[3] uv)) (cross3 u uv)

/-! ## Rotation matrices, by rows -/

abbrev Mat3 (R : Type) := Vector (Vector R 3) 3

def mulVec3 (m : Mat3 R) (a : Vector R 3) : Vector R 3 := #v[dot3 m[0] a, dot3 m[1] a, dot3 m[2] a]

def transpose3 (m : Mat3 R) : Mat3 R :=
  #v[#v[m[0][0], m[1][0], m[2][0]], #v[m[0][1], m[1][1], m[2][1]], #v[m[0][2], m[1][2], m[2][2]]]

/-- `ToRotationMatrix`. -/
def toRotationMatrix (q : Quat R) : Mat3 R :=
  let tx := (2.0 : R) * q[0]
  let ty := (2.0 : R) * q[1]
  let tz := (2.0 : R) * q[2]
  #v[#v[(1.0 : R) - (ty * q[1] + tz * q[2]), ty * q[0] - tz * q[3], tz * q[0] + ty * q[3]],
    #v[ty * q[0] + tz * q[3], (1.0 : R) - (tx * q[0] + tz * q[2]), tz * q[1] - tx * q[3]],
    #v[tz * q[0] - ty * q[3], tz * q[1] + tx * q[3], (1.0 : R) - (tx * q[0] + ty * q[1])]]

/-- `FromRotationMatrix`, for a trace that is not positive: the largest diagonal entry `i` decides. -/
def fromDiagonal (m : Mat3 R) (i : Fin 3) : Quat R :=
  let j := i + 1
  let k := j + 1
  let t := DoubleArith.sqrt (m[i][i] - m[j][j] - m[k][k] + (1.0 : R))
  let s := (0.5 : R) / t
  let q : Quat R := #v[0.0, 0.0, 0.0, (m[k][j] - m[j][k]) * s]
  ((q.set i ((0.5 : R) * t)).set j ((m[j][i] + m[i][j]) * s)).set k ((m[k][i] + m[i][k]) * s)

/-- `FromRotationMatrix`. -/
def fromRotationMatrix (m : Mat3 R) : Quat R :=
  let trace := m[0][0] + m[1][1] + m[2][2]
  if (0.0 : R) < trace then
    let t := DoubleArith.sqrt (trace + (1.0 : R))
    let s := (0.5 : R) / t
    #v[(m[2][1] - m[1][2]) * s, (m[0][2] - m[2][0]) * s, (m[1][0] - m[0][1]) * s, (0.5 : R) * t]
  else
    let i : Fin 3 := if m[0][0] < m[1][1] then 1 else 0
    fromDiagonal m (if m[i][i] < m[2][2] then 2 else i)

/-! ## Rigid transforms -/

/-- `SE3`, on plain arrays. -/
structure Rigid (R : Type) where
  rotation : Quat R
  translation : Vector R 3

/-- `Inverse`. -/
def Rigid.inverse (a : Rigid R) : Rigid R :=
  ⟨Geometry.inverse a.rotation, neg3 (rotateDirection (Geometry.inverse a.rotation) a.translation)⟩

/-- `operator*`. -/
def Rigid.mul (a b : Rigid R) : Rigid R :=
  ⟨quatMul a.rotation b.rotation,
    add3 (rotateDirection a.rotation b.translation) a.translation⟩

/-- `TransformPoint`. -/
def Rigid.transformPoint (a : Rigid R) (p : Vector R 3) : Vector R 3 :=
  add3 (rotateDirection a.rotation p) a.translation

end Geometry

end SpatialPlatform.Core
