import SpatialPlatform.Adapters.VisualGeometry.EssentialVerifier
import SpatialPlatform.Core.Geometry.TwoRays
import SpatialPlatform.Lib.Coordinates

/-!
# The cheirality vote

The middle of `adapters/visual_geometry/essential_verifier.cpp`: of the two
rotations and the two signs of the translation that an essential matrix leaves
open, the pair wins that puts the most points in front of both cameras.

* `depthLaw` — what the depths of a correspondence are, and that only one sign
  gets its vote.
* `votes_add_votes_neg3` — so the two signs share the inliers.
* `voteCheirality_eq_some` — the winner has more than half of them.
-/

namespace SpatialPlatform.Adapters.VisualGeometry

open SpatialPlatform.Core SpatialPlatform.Core.Geometry

/-- `EssentialDecomposition`. -/
structure EssentialDecomposition (R : Type) where
  r1 : Mat3 R
  r2 : Mat3 R
  t : Vector R 3

/-- `Depths`. -/
structure Depths (R : Type) where
  ok : Bool
  zS : R
  zT : R

/-- The rays of a correspondence, and its place in `inlier`. -/
structure RayPair (R : Type) where
  rS : Vector R 3
  rT : Vector R 3
  inlier : Bool

section

variable {R : Type} [DoubleArith R]

/-- Rays without depths. -/
def Depths.failed : Depths R := ⟨false, 0.0, 0.0⟩

/-- `TriangulateUnitRays`. -/
def triangulateUnitRays (rS rT : Vector R 3) (rotation : Mat3 R) (t : Vector R 3) : Depths R :=
  let u := rS
  let v := mulVec3 (transpose3 rotation) rT
  let w := mulVec3 ((transpose3 rotation).map neg3) t
  let a := dot3 u u
  let b := -dot3 u v
  let c := dot3 v v
  let det := a * c - b * b
  let abs := if det < (0.0 : R) then -det else det
  if !Double.isFinite det ∨ abs < (1e-12 : R) then .failed
  else
    let uw := dot3 u w
    let vw := dot3 v w
    let alongS := (c * uw + b * vw) / det
    let alongT := -(b * uw + a * vw) / det
    if !Double.isFinite alongS ∨ !Double.isFinite alongT then .failed
    else
      let xS := scale3 alongS rS
      let xT := add3 (mulVec3 rotation xS) t
      if !allFinite xS ∨ !allFinite xT then .failed
      else ⟨true, xS 2, xT 2⟩

/-- The correspondence is in front of both cameras. -/
def RayPair.votesFor (pair : RayPair R) (rotation : Mat3 R) (t : Vector R 3) : Bool :=
  let d := triangulateUnitRays pair.rS pair.rT rotation t
  d.ok && (0.0 : R) < d.zS && (0.0 : R) < d.zT

/-- The votes of a candidate. -/
def votes (pairs : List (RayPair R)) (rotation : Mat3 R) (t : Vector R 3) : Nat :=
  pairs.countP fun pair => pair.inlier && pair.votesFor rotation t

/-- `inlier_total`. -/
def inlierTotal (pairs : List (RayPair R)) : Nat := pairs.countP RayPair.inlier

/-- The best candidate so far, and whether another one has as many votes. -/
structure BestCandidate (R : Type) where
  bestVotes : Nat := 0
  best : Option (Mat3 R × Vector R 3) := none
  tie : Bool := false

/-- One round of the vote. -/
def compareVotes (pairs : List (RayPair R)) (leader : BestCandidate R)
    (candidate : Mat3 R × Vector R 3) : BestCandidate R :=
  let count := votes pairs candidate.1 candidate.2
  if leader.bestVotes < count then ⟨count, some candidate, false⟩
  else if count = leader.bestVotes then { leader with tie := true }
  else leader

/-- The candidates, in the order of the loop. -/
def EssentialDecomposition.candidates (decomp : EssentialDecomposition R) :
    List (Mat3 R × Vector R 3) :=
  [(decomp.r1, decomp.t), (decomp.r1, neg3 decomp.t), (decomp.r2, decomp.t),
    (decomp.r2, neg3 decomp.t)]

/-- `VoteCheirality`. -/
def voteCheirality (decomp : EssentialDecomposition R) (pairs : List (RayPair R)) :
    Option (Mat3 R × Vector R 3) :=
  if inlierTotal pairs = 0 then none
  else
    let leader := decomp.candidates.foldl (compareVotes pairs) {}
    if leader.tie then none
    else if leader.bestVotes * 2 ≤ inlierTotal pairs then none
    else leader.best

end

/-! ## Without rounding

Over the reals the two depths of the vote are solutions of linear equations,
unless the rays are almost parallel. -/

/-- The transpose of a rotation takes back what the rotation does. -/
def IsRotation (rotation : Mat3 ℝ) : Prop :=
  ∀ x, mulVec3 (transpose3 rotation) (mulVec3 rotation x) = x

theorem mulVec3_add3 (m : Mat3 ℝ) (a b : Vector ℝ 3) :
    mulVec3 m (add3 a b) = add3 (mulVec3 m a) (mulVec3 m b) := by
  apply vec3_ext <;> simp [mulVec3, add3, dot3_real] <;> ring

theorem mulVec3_scale3 (m : Mat3 ℝ) (s : ℝ) (a : Vector ℝ 3) :
    mulVec3 m (scale3 s a) = scale3 s (mulVec3 m a) := by
  apply vec3_ext <;> simp [mulVec3, scale3, dot3_real] <;> ring

theorem mulVec3_map_neg3 (m : Mat3 ℝ) (a : Vector ℝ 3) : mulVec3 (m.map neg3) a = neg3 (mulVec3 m a) := by
  apply vec3_ext <;> simp [mulVec3, neg3, dot3_real] <;> ring

theorem mulVec3_neg3 (m : Mat3 ℝ) (a : Vector ℝ 3) : mulVec3 m (neg3 a) = neg3 (mulVec3 m a) := by
  apply vec3_ext <;> simp [mulVec3, neg3, dot3_real] <;> ring

theorem dot3_neg3 (a b : Vector ℝ 3) : dot3 a (neg3 b) = -dot3 a b := by
  simp [dot3_real, neg3]
  ring

/-- The direction of the second ray in the first camera. -/
noncomputable def seenFromSource (rT : Vector ℝ 3) (rotation : Mat3 ℝ) : Vector ℝ 3 :=
  mulVec3 (transpose3 rotation) rT

/-- Where the second camera is in the first one. -/
noncomputable def targetCentre (rotation : Mat3 ℝ) (t : Vector ℝ 3) : Vector ℝ 3 :=
  neg3 (mulVec3 (transpose3 rotation) t)

/-- How far along the first ray the rays are closest. -/
noncomputable def alongSource (rS rT : Vector ℝ 3) (rotation : Mat3 ℝ) (t : Vector ℝ 3) : ℝ :=
  (dot3 (seenFromSource rT rotation) (seenFromSource rT rotation) *
      dot3 rS (targetCentre rotation t) -
    dot3 rS (seenFromSource rT rotation) *
      dot3 (seenFromSource rT rotation) (targetCentre rotation t)) /
    spread rS (seenFromSource rT rotation)

/-- The rays are triangulated unless they are almost parallel. -/
theorem triangulateUnitRays_real (rS rT : Vector ℝ 3) (rotation : Mat3 ℝ) (t : Vector ℝ 3) :
    triangulateUnitRays rS rT rotation t =
      if spread rS (seenFromSource rT rotation) < 1e-12 then .failed
      else ⟨true, (scale3 (alongSource rS rT rotation t) rS) 2,
        (add3 (mulVec3 rotation (scale3 (alongSource rS rT rotation t) rS)) t) 2⟩ := by
  have hfinite : ∀ a : ℝ, Double.isFinite a = true := fun _ => rfl
  have hdet : dot3 rS rS * dot3 (seenFromSource rT rotation) (seenFromSource rT rotation) -
      -dot3 rS (seenFromSource rT rotation) * -dot3 rS (seenFromSource rT rotation) =
        spread rS (seenFromSource rT rotation) := by
    rw [neg_mul_neg]
    rfl
  unfold triangulateUnitRays
  rw [show mulVec3 ((transpose3 rotation).map neg3) t = targetCentre rotation t from
    mulVec3_map_neg3 _ _,
    show mulVec3 (transpose3 rotation) rT = seenFromSource rT rotation from rfl]
  simp only [hfinite, allFinite_real, hdet, Bool.not_true, Bool.false_eq_true, false_or, or_self,
    if_false]
  rw [if_neg (show ¬ spread rS (seenFromSource rT rotation) < (0.0 : ℝ) by
    norm_num
    exact spread_nonneg _ _)]
  rw [neg_mul, ← sub_eq_add_neg]
  rfl

/-! ## Rays that meet -/

/-- The rays go through one point, at `a` and `b`. -/
def Meet (rS rT : Vector ℝ 3) (rotation : Mat3 ℝ) (t : Vector ℝ 3) (a b : ℝ) : Prop :=
  add3 (mulVec3 rotation (scale3 a rS)) t = scale3 b rT

/-- In the first camera, the second ray starts at the centre of the second one. -/
theorem Meet.lines {rS rT t : Vector ℝ 3} {rotation : Mat3 ℝ} {a b : ℝ} (h : Meet rS rT rotation t a b)
    (hrotation : IsRotation rotation) :
    alongLine #v[0, 0, 0] rS a =
      alongLine (targetCentre rotation t) (seenFromSource rT rotation) b := by
  have hback := congrArg (mulVec3 (transpose3 rotation)) h
  rw [mulVec3_add3, hrotation, mulVec3_scale3] at hback
  unfold alongLine targetCentre seenFromSource
  rw [← hback]
  apply vec3_ext <;> simp [add3, neg3, scale3]

theorem Meet.alongSource_eq {rS rT t : Vector ℝ 3} {rotation : Mat3 ℝ} {a b : ℝ}
    (h : Meet rS rT rotation t a b) (hrotation : IsRotation rotation)
    (hspread : spread rS (seenFromSource rT rotation) ≠ 0) :
    alongSource rS rT rotation t = a := by
  have hclosest := (closest_of_meet (h.lines hrotation) hspread).1
  have horigin : sub3 (targetCentre rotation t) #v[0, 0, 0] = targetCentre rotation t := by
    apply vec3_ext <;> simp [sub3]
  rwa [horigin] at hclosest

/-! ## The sign of the translation

With the other sign of the translation the same rays meet at the opposite
depths. So no inlier votes for both signs. -/

/-- The depths of the points on the other side. -/
def Depths.opposite (d : Depths ℝ) : Depths ℝ := ⟨d.ok, -d.zS, -d.zT⟩

theorem alongSource_neg3 (rS rT : Vector ℝ 3) (rotation : Mat3 ℝ) (t : Vector ℝ 3) :
    alongSource rS rT rotation (neg3 t) = -alongSource rS rT rotation t := by
  have hcentre : targetCentre rotation (neg3 t) = neg3 (targetCentre rotation t) := by
    rw [targetCentre, mulVec3_neg3, targetCentre]
  unfold alongSource
  rw [hcentre, dot3_neg3, dot3_neg3, ← neg_div]
  congr 1
  ring

theorem triangulateUnitRays_neg3 (rS rT : Vector ℝ 3) (rotation : Mat3 ℝ) (t : Vector ℝ 3) :
    triangulateUnitRays rS rT rotation (neg3 t) =
      (triangulateUnitRays rS rT rotation t).opposite := by
  rw [triangulateUnitRays_real, triangulateUnitRays_real, alongSource_neg3]
  split_ifs
  · norm_num [Depths.failed, Depths.opposite]
  · have hpoint : scale3 (-alongSource rS rT rotation t) rS =
        neg3 (scale3 (alongSource rS rT rotation t) rS) := by
      apply vec3_ext <;> simp [scale3, neg3]
    have hother : add3 (mulVec3 rotation (neg3 (scale3 (alongSource rS rT rotation t) rS))) (neg3 t) =
        neg3 (add3 (mulVec3 rotation (scale3 (alongSource rS rT rotation t) rS)) t) := by
      rw [mulVec3_neg3]
      apply vec3_ext <;> simp [add3, neg3] <;> ring
    rw [hpoint, hother]
    rfl

/-- What is in front of both cameras is behind them for the other sign. -/
theorem RayPair.votesFor_neg3 (pair : RayPair ℝ) {rotation : Mat3 ℝ} {t : Vector ℝ 3}
    (h : pair.votesFor rotation t = true) : pair.votesFor rotation (neg3 t) = false := by
  unfold RayPair.votesFor at h ⊢
  rw [triangulateUnitRays_neg3]
  simp only [Bool.and_eq_true, decide_eq_true_eq] at h
  have hbehind : ¬ (0.0 : ℝ) < -(triangulateUnitRays pair.rS pair.rT rotation t).zS := by
    have hfront := h.1.2
    norm_num at hfront ⊢
    exact hfront.le
  simp [Depths.opposite, hbehind]

/-- The depths that `TriangulateUnitRays` finds. -/
structure DepthLaw (pair : RayPair ℝ) (rotation : Mat3 ℝ) (t : Vector ℝ 3) : Prop where
  /-- Rays that meet are met where they do, if they are not almost parallel. -/
  recovers : IsRotation rotation → ∀ a b, Meet pair.rS pair.rT rotation t a b →
    1e-12 ≤ spread pair.rS (seenFromSource pair.rT rotation) →
      triangulateUnitRays pair.rS pair.rT rotation t =
        ⟨true, (scale3 a pair.rS) 2, (scale3 b pair.rT) 2⟩
  rejects : spread pair.rS (seenFromSource pair.rT rotation) < 1e-12 →
    triangulateUnitRays pair.rS pair.rT rotation t = .failed
  negates : triangulateUnitRays pair.rS pair.rT rotation (neg3 t) =
    (triangulateUnitRays pair.rS pair.rT rotation t).opposite
  oneVote : ¬ (pair.votesFor rotation t = true ∧ pair.votesFor rotation (neg3 t) = true)

theorem depthLaw (pair : RayPair ℝ) (rotation : Mat3 ℝ) (t : Vector ℝ 3) :
    DepthLaw pair rotation t where
  recovers hrotation a b hmeet hspread := by
    have hpos : 0 < spread pair.rS (seenFromSource pair.rT rotation) :=
      lt_of_lt_of_le (by norm_num) hspread
    rw [triangulateUnitRays_real, if_neg (not_lt.mpr hspread),
      hmeet.alongSource_eq hrotation hpos.ne', hmeet]
  rejects hspread := by rw [triangulateUnitRays_real, if_pos hspread]
  negates := triangulateUnitRays_neg3 _ _ _ _
  oneVote := by
    rintro ⟨hvote, hother⟩
    rw [pair.votesFor_neg3 hvote] at hother
    exact Bool.false_ne_true hother

theorem dot3_mk (a b c a' b' c' : ℝ) :
    dot3 #v[a, b, c] #v[a', b', c'] = a * a' + b * b' + c * c' := rfl

/-- A ray to the side, and one straight ahead. -/
noncomputable def wideRay : RayPair ℝ := ⟨.triple 0.6 0 0.8, .triple 0 0 1, true⟩

/-- The matrix that changes nothing. -/
noncomputable def noRotation : Mat3 ℝ := .triple (.triple 1 0 0) (.triple 0 1 0) (.triple 0 0 1)

theorem isRotation_noRotation : IsRotation noRotation := by
  intro x
  apply vec3_ext <;> simp [mulVec3, transpose3, noRotation, dot3_real]

theorem seenFromSource_noRotation (rT : Vector ℝ 3) : seenFromSource rT noRotation = rT := by
  apply vec3_ext <;> simp [seenFromSource, mulVec3, transpose3, noRotation, dot3_real]

/-- A point four metres away from two cameras that are three metres apart. -/
theorem depthLaw_wideRay :
    triangulateUnitRays wideRay.rS wideRay.rT noRotation #v[-3, 0, 0] =
      ⟨true, (scale3 5 wideRay.rS) 2, (scale3 4 wideRay.rT) 2⟩ := by
  apply (depthLaw wideRay noRotation #v[-3, 0, 0]).recovers isRotation_noRotation 5 4
  · show add3 (mulVec3 noRotation (scale3 5 wideRay.rS)) #v[-3, 0, 0] = scale3 4 wideRay.rT
    apply vec3_ext <;> simp [mulVec3, noRotation, dot3_real, add3, scale3, wideRay] <;> norm_num
  · rw [seenFromSource_noRotation, spread, wideRay, dot3_mk, dot3_mk, dot3_mk]
    norm_num

/-- A ray straight ahead, and one that is off by two parts in ten million. -/
noncomputable def narrowRay : RayPair ℝ where
  rS := .triple 0 0 1
  rT := .triple (2e-7 / (1 + 1e-14)) 0 ((1 - 1e-14) / (1 + 1e-14))
  inlier := true

/-- Two rays of length one that go through one point in front of both cameras,
five thousand kilometres away from cameras that are one metre apart. -/
theorem narrowRay_not_recovered :
    norm3 narrowRay.rS = 1 ∧ norm3 narrowRay.rT = 1 ∧ IsRotation noRotation ∧
      Meet narrowRay.rS narrowRay.rT noRotation #v[1, 0, 0] ((1 - 1e-14) / 2e-7)
        ((1 + 1e-14) / 2e-7) ∧
      triangulateUnitRays narrowRay.rS narrowRay.rT noRotation #v[1, 0, 0] ≠
        ⟨true, (scale3 ((1 - 1e-14) / 2e-7) narrowRay.rS) 2,
          (scale3 ((1 + 1e-14) / 2e-7) narrowRay.rT) 2⟩ := by
  refine ⟨?_, ?_, isRotation_noRotation, ?_, ?_⟩
  · rw [norm3_real, Real.sqrt_eq_one, narrowRay, dot3_mk]
    norm_num
  · rw [norm3_real, Real.sqrt_eq_one, narrowRay, dot3_mk]
    norm_num
  · show add3 (mulVec3 noRotation (scale3 ((1 - 1e-14) / 2e-7) narrowRay.rS)) #v[1, 0, 0] =
      scale3 ((1 + 1e-14) / 2e-7) narrowRay.rT
    apply vec3_ext <;> simp [mulVec3, noRotation, dot3_real, add3, scale3, narrowRay] <;> norm_num
  · have hspread : spread narrowRay.rS (seenFromSource narrowRay.rT noRotation) < 1e-12 := by
      rw [seenFromSource_noRotation, spread, narrowRay, dot3_mk, dot3_mk, dot3_mk]
      norm_num
    rw [triangulateUnitRays_real, if_pos hspread]
    intro h
    cases h

/-! ## The vote

A loop over the candidates keeps the leader, and whether another one has as many
votes. `Leads` is the invariant of the loop, by induction over the candidates
that are left. -/

/-- The two signs of the translation share the inliers. -/
theorem votes_add_votes_neg3 (pairs : List (RayPair ℝ)) (rotation : Mat3 ℝ) (t : Vector ℝ 3) :
    votes pairs rotation t + votes pairs rotation (neg3 t) ≤ inlierTotal pairs := by
  unfold votes inlierTotal
  induction pairs with
  | nil => simp
  | cons pair pairs ih =>
    simp only [List.countP_cons]
    have hone : (if (pair.inlier && pair.votesFor rotation t) = true then 1 else 0) +
        (if (pair.inlier && pair.votesFor rotation (neg3 t)) = true then 1 else 0) ≤
          if pair.inlier = true then 1 else 0 := by
      cases hvote : pair.votesFor rotation t
      · cases pair.inlier <;> cases pair.votesFor rotation (neg3 t) <;> simp
      · rw [pair.votesFor_neg3 hvote]
        cases pair.inlier <;> simp
    omega

section

variable {R : Type} [DoubleArith R] {pairs : List (RayPair R)}

/-- What is known of the leader when some candidates have been seen. -/
structure BestCandidate.Leads (leader : BestCandidate R) (pairs : List (RayPair R))
    (seen : List (Mat3 R × Vector R 3)) : Prop where
  most : ∀ c ∈ seen, votes pairs c.1 c.2 ≤ leader.bestVotes
  best : ∀ c, leader.best = some c → c ∈ seen ∧ votes pairs c.1 c.2 = leader.bestVotes
  missing : leader.best = none → leader.bestVotes = 0
  sole : leader.tie = false → seen.countP (fun c => votes pairs c.1 c.2 = leader.bestVotes) ≤ 1

theorem BestCandidate.Leads.compareVotes {leader : BestCandidate R}
    {seen : List (Mat3 R × Vector R 3)} (h : leader.Leads pairs seen)
    (candidate : Mat3 R × Vector R 3) :
    (compareVotes pairs leader candidate).Leads pairs (seen ++ [candidate]) := by
  obtain ⟨hmost, hbest, hmissing, hsole⟩ := h
  unfold VisualGeometry.compareVotes
  simp only
  split_ifs with hmore hequal
  · -- more votes than all before
    refine ⟨?_, ?_, fun hnone => (nomatch hnone), fun _ => ?_⟩
    · intro c hc
      rcases List.mem_append.mp hc with hc | hc
      · exact (hmost c hc).trans hmore.le
      · rw [List.mem_singleton.mp hc]
    · intro c hc
      cases hc
      exact ⟨by simp, rfl⟩
    · rw [List.countP_append, List.countP_eq_zero.mpr]
      · simp
      · intro c hc heq
        have hbefore := hmost c hc
        rw [of_decide_eq_true heq] at hbefore
        exact absurd hmore (Nat.not_lt.mpr hbefore)
  · refine ⟨?_, ?_, hmissing, fun htie => (nomatch htie)⟩
    · intro c hc
      rcases List.mem_append.mp hc with hc | hc
      · exact hmost c hc
      · rw [List.mem_singleton.mp hc, hequal]
    · intro c hc
      exact ⟨List.mem_append_left _ (hbest c hc).1, (hbest c hc).2⟩
  · refine ⟨?_, ?_, hmissing, fun htie => ?_⟩
    · intro c hc
      rcases List.mem_append.mp hc with hc | hc
      · exact hmost c hc
      · rw [List.mem_singleton.mp hc]
        omega
    · intro c hc
      exact ⟨List.mem_append_left _ (hbest c hc).1, (hbest c hc).2⟩
    · rw [List.countP_append]
      simpa [hequal] using hsole htie

theorem leads_foldl {leader : BestCandidate R} {seen : List (Mat3 R × Vector R 3)}
    (h : leader.Leads pairs seen) (candidates : List (Mat3 R × Vector R 3)) :
    (candidates.foldl (compareVotes pairs) leader).Leads pairs (seen ++ candidates) := by
  induction candidates generalizing leader seen with
  | nil => simpa using h
  | cons candidate candidates ih =>
    rw [List.foldl_cons, List.append_cons]
    exact ih (h.compareVotes candidate)

/-- The winner is a candidate with more than half of the votes, and no other candidate has as many. -/
theorem voteCheirality_eq_some {decomp : EssentialDecomposition R} {winner : Mat3 R × Vector R 3}
    (h : voteCheirality decomp pairs = some winner) :
    winner ∈ decomp.candidates ∧ inlierTotal pairs < votes pairs winner.1 winner.2 * 2 ∧
      (∀ c ∈ decomp.candidates, votes pairs c.1 c.2 ≤ votes pairs winner.1 winner.2) ∧
      decomp.candidates.countP
        (fun c => votes pairs c.1 c.2 = votes pairs winner.1 winner.2) ≤ 1 := by
  have hstart : BestCandidate.Leads {} pairs ([] : List (Mat3 R × Vector R 3)) :=
    ⟨by simp, by simp, fun _ => rfl, by simp⟩
  have hleads := leads_foldl hstart decomp.candidates
  rw [List.nil_append] at hleads
  unfold voteCheirality at h
  simp only at h
  split_ifs at h with htotal htie hhalf
  obtain ⟨hmem, hvotes⟩ := hleads.best winner h
  rw [hvotes]
  exact ⟨hmem, Nat.lt_of_not_le hhalf, hleads.most, hleads.sole (by simpa using htie)⟩

end

end SpatialPlatform.Adapters.VisualGeometry
