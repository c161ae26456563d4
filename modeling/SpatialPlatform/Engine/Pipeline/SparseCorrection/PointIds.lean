import SpatialPlatform.Core.Geometry.Triangulation
import SpatialPlatform.Engine.Pipeline.SparseCorrection.Retriangulation
import SpatialPlatform.Lib.Coordinates

/-!
# The ids of triangulated points

`Retriangulate` of `core/geometry/triangulation.h`. Every point of the source
becomes a candidate; the candidates that are accepted become the points of the
document, under their old id when they have hardly moved and under a fresh one
otherwise. The fresh ids are counted from 10001, whatever the ids of the source
are.

* `pointIds_nodup_iff` — when the ids of the points stay unique.
-/

namespace SpatialPlatform.Engine

open SpatialPlatform.Core SpatialPlatform.Core.Geometry SpatialPlatform.Lib

/-- `RetriangulationOptions`. -/
structure RetriangulationOptions (R : Type) where
  minParallaxDeg : R
  stabilityThresholdM : R

/-- `PointCandidate`, as far as it is read again. -/
structure PointCandidate (R : Type) where
  oldPoint3dId : UInt64
  xyz : Vector R 3
  v2Xyz : Vector R 3
  parallaxDeg : R
  meanResidualPx : R
  geometricAcceptance : TriangulationAcceptance := .rejectedNonFinite
  reprojectionAcceptance : Bool := false

inductive PointLineage where
  | preserved
  | replaced
  | new
  | rejected
  deriving DecidableEq, Repr

structure PointLineageEntry where
  oldPoint3dId : UInt64 := 0
  newPoint3dId : UInt64 := 0
  lineage : PointLineage := .rejected

/-- `RetriangulationLineageSummary`. -/
structure LineageSummary where
  preservedCount : Int64 := 0
  replacedCount : Int64 := 0
  newCount : Int64 := 0
  rejectedCount : Int64 := 0

/-- The points and their lineage, with the next fresh id. -/
structure EmittedPoints (R : Type) where
  nextPointId : UInt64
  lineage : LineageSummary := {}
  points3D : List (ReconPoint3D R) := []
  pointLineage : List PointLineageEntry := []

variable {M R : Type} [DoubleArith R]

/-! ## Candidates

The two passes of the source as functions on candidates: the first one measures,
the second one judges. -/

section

variable (models : CameraModels M R) (views : List (CameraView M R))
  (keypoints : List (TriangulationObservation R)) (v2 : Reconstruction R)

/-- `find_view`. -/
def findView (imageId : UInt32) : Option (CameraView M R) := views.find? (·.imageId = imageId)

/-- The order of `KeypointKey`. -/
def keypointLt (a b : TriangulationObservation R) : Bool :=
  if a.imageId ≠ b.imageId then a.imageId < b.imageId else a.point2dIdx < b.point2dIdx

/-- `find_keypoint`, in the sorted list. -/
def findKeypoint (imageId : UInt32) (point2dIdx : Int32) : Option (R × R) :=
  (keypoints.find? fun k => k.imageId = imageId ∧ k.point2dIdx = point2dIdx).map
    TriangulationObservation.keypoint2d

/-- The candidate of a point: its first two observations are triangulated. -/
def candidateOf (options : RetriangulationOptions R) (point : ReconPoint3D R) :
    Except ProjectError (PointCandidate R) :=
  let rejected : PointCandidate R :=
    { oldPoint3dId := point.point3dId
      xyz := .triple 0.0 0.0 0.0
      v2Xyz := point.xyz
      parallaxDeg := 0.0
      meanResidualPx := 0.0 }
  match point.track with
  | t1 :: t2 :: _ =>
      match findKeypoint keypoints t1.imageId t1.point2dIdx,
        findKeypoint keypoints t2.imageId t2.point2dIdx, findView views t1.imageId,
        findView views t2.imageId with
      | some pixel1, some pixel2, some view1, some view2 => do
          let tc ← triangulateTwoRays models view1 pixel1 view2 pixel2 options.minParallaxDeg
          return { rejected with
            xyz := tc.xyz
            parallaxDeg := tc.parallaxDeg
            geometricAcceptance := tc.acceptance }
      | _, _, _, _ => return rejected
  | _ => return rejected

/-- The first point of the source with the id of a candidate. -/
def sourcePoint (candidate : PointCandidate R) : Option (ReconPoint3D R) :=
  v2.points3D.find? (·.point3dId = candidate.oldPoint3dId)

/-- The first pass over a candidate: its residual, unless the candidate is not
accepted or is seen from fewer than two views. The residual stays in the
candidate even when it is not finite. -/
def measureResidual (candidate : PointCandidate R) :
    Except ProjectError (PointCandidate R × Option R) :=
  if candidate.geometricAcceptance ≠ .accepted then return (candidate, none)
  else
    match sourcePoint v2 candidate with
    | none => return (candidate, none)
    | some point => do
        let seen := point.track.filterMap fun element => do
          let view ← findView views element.imageId
          let keypoint ← findKeypoint keypoints element.imageId element.point2dIdx
          return (view, keypoint)
        if seen.length < 2 then return (candidate, none)
        else
          let residual ← computePointReprojectionError models candidate.xyz seen
          return ({ candidate with meanResidualPx := residual },
            if Double.isFinite residual then some residual else none)

end

/-- The `D5` threshold of all residuals. -/
def globalThreshold (residuals : List R) : R :=
  if residuals.isEmpty then 2.0
  else
    let sorted := residuals.insertionSort (· ≤ ·)
    let n := sorted.length
    let nth (i : Nat) := sorted.getD i 0.0
    let median := if n % 2 = 0 then (0.5 : R) * (nth (n / 2 - 1) + nth (n / 2)) else nth (n / 2)
    let threshold := (3.0 : R) * median
    if (2.0 : R) < threshold then threshold else 2.0

/-- The second pass over a candidate. -/
def judge (threshold : R) (candidate : PointCandidate R) : PointCandidate R :=
  if candidate.geometricAcceptance ≠ .accepted then
    { candidate with reprojectionAcceptance := false }
  else if candidate.meanResidualPx ≤ threshold then
    { candidate with reprojectionAcceptance := true }
  else
    { candidate with
      reprojectionAcceptance := false
      geometricAcceptance := .rejectedHighResidual }

/-- All candidates, after both passes. -/
def judgedCandidates (models : CameraModels M R) (options : RetriangulationOptions R)
    (v2 : Reconstruction R) (observations : List (TriangulationObservation R)) :
    Except ProjectError (List (PointCandidate R)) := do
  let views ← initializeReprojectionViews models v2
  if observations.any fun o =>
      !Double.isFinite o.keypoint2d.1 || !Double.isFinite o.keypoint2d.2 then
    throw ⟨.validationDomain, "retriangulate: non-finite keypoint in observations"⟩
  else
    -- `std::sort` leaves the order of equal keys open; here they stay in order.
    let keypoints := observations.insertionSort fun a b => keypointLt b a = false
    let candidates ← v2.points3D.mapM (candidateOf models views keypoints options)
    let measured ← candidates.mapM (measureResidual models views keypoints v2)
    let threshold := globalThreshold (measured.filterMap Prod.snd)
    return measured.map fun candidate => judge threshold candidate.1

/-! ## Points

The loop that turns judged candidates into points, with the counter of fresh
ids. -/

/-- The candidate becomes a point. -/
def PointCandidate.isAccepted (candidate : PointCandidate R) : Bool :=
  candidate.geometricAcceptance = .accepted && candidate.reprojectionAcceptance

/-- The candidate has hardly moved. -/
def PointCandidate.isStable (options : RetriangulationOptions R) (candidate : PointCandidate R) :
    Bool :=
  norm3 (sub3 candidate.xyz candidate.v2Xyz) < options.stabilityThresholdM

/-- One round of the loop that builds the points. -/
def emitPoint (options : RetriangulationOptions R) (v2 : Reconstruction R)
    (emitted : EmittedPoints R) (candidate : PointCandidate R) : EmittedPoints R :=
  if !candidate.isAccepted then
    { emitted with
      lineage := { emitted.lineage with rejectedCount := emitted.lineage.rejectedCount + 1 }
      pointLineage := emitted.pointLineage ++
        [{ oldPoint3dId := candidate.oldPoint3dId, lineage := .rejected }] }
  else
    let source := sourcePoint v2 candidate
    let point (point3dId : UInt64) : ReconPoint3D R :=
      { point3dId
        xyz := candidate.xyz
        color := (source.map ReconPoint3D.color).getD (.triple 0 0 0)
        track := (source.map ReconPoint3D.track).getD []
        error := candidate.meanResidualPx }
    if candidate.isStable options then
      { emitted with
        lineage := { emitted.lineage with preservedCount := emitted.lineage.preservedCount + 1 }
        points3D := emitted.points3D ++ [point candidate.oldPoint3dId]
        pointLineage := emitted.pointLineage ++
          [⟨candidate.oldPoint3dId, candidate.oldPoint3dId, .preserved⟩] }
    else
      { nextPointId := emitted.nextPointId + 1
        lineage := { emitted.lineage with replacedCount := emitted.lineage.replacedCount + 1 }
        points3D := emitted.points3D ++ [point emitted.nextPointId]
        pointLineage := emitted.pointLineage ++
          [⟨candidate.oldPoint3dId, emitted.nextPointId, .replaced⟩] }

/-- The loop that builds the points. -/
def emitPoints (options : RetriangulationOptions R) (v2 : Reconstruction R)
    (candidates : List (PointCandidate R)) : EmittedPoints R :=
  candidates.foldl (emitPoint options v2) { nextPointId := 10001 }

/-- `RetriangulationResult`. -/
structure RetriangulationResult (R : Type) where
  reconstruction : Reconstruction R
  lineage : LineageSummary
  pointLineage : List PointLineageEntry

/-- `Retriangulate`; `reconstructionId` is what `GenerateUuid` returns. -/
def retriangulateFrom (models : CameraModels M R) (options : RetriangulationOptions R)
    (v2 : Reconstruction R) (observations : List (TriangulationObservation R))
    (reconstructionId : Uuid) : Except ProjectError (RetriangulationResult R) := do
  let candidates ← judgedCandidates models options v2 observations
  let emitted := emitPoints options v2 candidates
  return ⟨retriangulate v2 emitted.points3D reconstructionId, emitted.lineage, emitted.pointLineage⟩

/-! ## Every point of the source has one candidate

The two passes change a candidate in place, so the candidates carry the ids of
the points in their order. -/

/-- A list that is made element by element keeps what every element keeps. -/
theorem map_eq_of_mapM {ε α β γ : Type} {f : α → Except ε β} {g : β → γ} {h : α → γ}
    (hf : ∀ a b, f a = .ok b → g b = h a) {l : List α} {l' : List β} (hl : l.mapM f = .ok l') :
    l'.map g = l.map h := by
  induction l generalizing l' with
  | nil =>
    cases hl
    rfl
  | cons a l ih =>
    rw [List.mapM_cons] at hl
    obtain ⟨b, hb, hl⟩ := bind_eq_ok hl
    obtain ⟨bs, hbs, hl⟩ := bind_eq_ok hl
    cases hl
    rw [List.map_cons, List.map_cons, hf a b hb, ih hbs]

theorem candidateOf_oldPoint3dId {models : CameraModels M R} {views : List (CameraView M R)}
    {keypoints : List (TriangulationObservation R)} {options : RetriangulationOptions R}
    {point : ReconPoint3D R} {candidate : PointCandidate R}
    (h : candidateOf models views keypoints options point = .ok candidate) :
    candidate.oldPoint3dId = point.point3dId := by
  unfold candidateOf at h
  split at h
  · split at h
    · obtain ⟨tc, _, h⟩ := bind_eq_ok h
      cases h
      rfl
    · cases h
      rfl
  · cases h
    rfl

theorem measureResidual_oldPoint3dId {models : CameraModels M R} {views : List (CameraView M R)}
    {keypoints : List (TriangulationObservation R)} {v2 : Reconstruction R}
    {candidate : PointCandidate R} {measured : PointCandidate R × Option R}
    (h : measureResidual models views keypoints v2 candidate = .ok measured) :
    measured.1.oldPoint3dId = candidate.oldPoint3dId := by
  unfold measureResidual at h
  split at h
  · cases h
    rfl
  split at h
  · cases h
    rfl
  simp only at h
  split at h
  · cases h
    rfl
  · obtain ⟨residual, _, h⟩ := bind_eq_ok h
    cases h
    rfl

omit [DoubleArith R] in
@[simp] theorem judge_oldPoint3dId [DoubleArith R] (threshold : R) (candidate : PointCandidate R) :
    (judge threshold candidate).oldPoint3dId = candidate.oldPoint3dId := by
  unfold judge
  split
  · rfl
  · split <;> rfl

theorem judgedCandidates_oldPoint3dId {models : CameraModels M R}
    {options : RetriangulationOptions R} {v2 : Reconstruction R}
    {observations : List (TriangulationObservation R)} {candidates : List (PointCandidate R)}
    (h : judgedCandidates models options v2 observations = .ok candidates) :
    candidates.map PointCandidate.oldPoint3dId = v2.points3D.map ReconPoint3D.point3dId := by
  unfold judgedCandidates at h
  obtain ⟨views, _, h⟩ := bind_eq_ok h
  split at h
  · cases h
  obtain ⟨made, hmade, h⟩ := bind_eq_ok h
  obtain ⟨measured, hmeasured, h⟩ := bind_eq_ok h
  cases h
  have hold := map_eq_of_mapM (fun _ _ => candidateOf_oldPoint3dId) hmade
  have hsame : measured.map (fun m => m.1.oldPoint3dId) = made.map PointCandidate.oldPoint3dId :=
    map_eq_of_mapM (fun _ _ => measureResidual_oldPoint3dId) hmeasured
  rw [← hold, ← hsame, List.map_map]
  apply List.map_congr_left
  intro m _
  exact judge_oldPoint3dId _ _

/-! ## Fresh ids

A counter of 64 bits repeats itself only after all of its values. -/

/-- The ids that a counter hands out. -/
def freshIds (start : UInt64) : Nat → List UInt64
  | 0 => []
  | n + 1 => start :: freshIds (start + 1) n

theorem mem_freshIds {start id : UInt64} {n : Nat} :
    id ∈ freshIds start n ↔ ∃ k < n, id = start + UInt64.ofNat k := by
  induction n generalizing start with
  | zero => simp [freshIds]
  | succ n ih =>
    have hshift : ∀ k : Nat, start + 1 + UInt64.ofNat k = start + UInt64.ofNat (k + 1) := by
      intro k
      rw [UInt64.ofNat_add, UInt64.add_assoc, UInt64.add_comm 1]
      rfl
    simp only [freshIds, List.mem_cons, ih, hshift]
    constructor
    · intro h
      obtain rfl | ⟨k, hk, rfl⟩ := h
      · exact ⟨0, Nat.succ_pos n, by simp⟩
      · exact ⟨k + 1, Nat.succ_lt_succ hk, rfl⟩
    · intro ⟨k, hk, h⟩
      cases k with
      | zero => exact Or.inl (by simpa using h)
      | succ k => exact Or.inr ⟨k, Nat.lt_of_succ_lt_succ hk, h⟩

/-- A counter repeats itself only after 2^64 ids. -/
theorem nodup_freshIds {start : UInt64} {n : Nat} (hn : n ≤ 2 ^ 64) : (freshIds start n).Nodup := by
  induction n generalizing start with
  | zero => exact List.nodup_nil
  | succ n ih =>
    refine List.nodup_cons.mpr ⟨?_, ih (by omega)⟩
    intro hmem
    obtain ⟨k, hk, h⟩ := mem_freshIds.mp hmem
    have hzero : (1 : UInt64) + UInt64.ofNat k = 0 := by
      rw [UInt64.add_assoc] at h
      simpa using h.symm
    have hnat := congrArg UInt64.toNat hzero
    simp [UInt64.toNat_add, UInt64.toNat_ofNat'] at hnat
    omega

/-- The ids are in a list without repetition, so there are at most 2^64. -/
theorem length_le_of_nodup {ids : List UInt64} (h : ids.Nodup) : ids.length ≤ 2 ^ 64 := by
  have hbelow : ∀ (bound : Nat) (l : List Nat), l.Nodup → (∀ n ∈ l, n < bound) →
      l.length ≤ bound := by
    intro bound l hl hlt
    have hsub : l ⊆ List.range bound := fun n hn => List.mem_range.mpr (hlt n hn)
    have hlength := (List.subperm_of_subset hl hsub).length_le
    rwa [List.length_range] at hlength
  rw [← List.length_map UInt64.toNat]
  apply hbelow
  · exact h.map fun a b => UInt64.toNat_inj.mp
  · intro n hn
    obtain ⟨id, _, rfl⟩ := List.mem_map.mp hn
    exact id.toNat_lt

/-! ## The ids of the points

The loop that emits points is followed by induction over the candidates, in any
state: it has added the ids of the preserved ones, and as many ids from the
counter as it has replaced. So an id occurs twice only if a preserved one is
among those of the counter. -/

/-- The candidate keeps its id. -/
def PointCandidate.isPreserved (options : RetriangulationOptions R) (candidate : PointCandidate R) :
    Bool :=
  candidate.isAccepted && candidate.isStable options

/-- The candidate gets a fresh id. -/
def PointCandidate.isReplaced (options : RetriangulationOptions R) (candidate : PointCandidate R) :
    Bool :=
  candidate.isAccepted && !candidate.isStable options

/-- What one round adds to the ids. -/
theorem emitPoint_ids (options : RetriangulationOptions R) (v2 : Reconstruction R)
    (emitted : EmittedPoints R) (candidate : PointCandidate R) :
    (emitPoint options v2 emitted candidate).points3D.map ReconPoint3D.point3dId =
        emitted.points3D.map ReconPoint3D.point3dId ++
          (if candidate.isPreserved options then [candidate.oldPoint3dId]
            else if candidate.isReplaced options then [emitted.nextPointId] else []) ∧
      (emitPoint options v2 emitted candidate).nextPointId =
        if candidate.isReplaced options then emitted.nextPointId + 1 else emitted.nextPointId := by
  unfold emitPoint PointCandidate.isPreserved PointCandidate.isReplaced
  cases candidate.isAccepted <;> cases candidate.isStable options <;> simp

/-- The ids are those of the preserved candidates and as many fresh ones as
candidates are replaced, in some order. -/
theorem emitPoints_perm (options : RetriangulationOptions R) (v2 : Reconstruction R)
    (candidates : List (PointCandidate R)) (emitted : EmittedPoints R) :
    ((candidates.foldl (emitPoint options v2) emitted).points3D.map ReconPoint3D.point3dId).Perm
      (emitted.points3D.map ReconPoint3D.point3dId ++
        ((candidates.filter (·.isPreserved options)).map PointCandidate.oldPoint3dId ++
          freshIds emitted.nextPointId (candidates.countP (·.isReplaced options)))) := by
  induction candidates generalizing emitted with
  | nil => simp [freshIds]
  | cons candidate candidates ih =>
    obtain ⟨hids, hnext⟩ := emitPoint_ids options v2 emitted candidate
    refine (ih _).trans ?_
    rw [hids, hnext, List.append_assoc]
    apply List.Perm.append_left
    simp only [List.filter_cons, List.countP_cons]
    cases hpreserved : candidate.isPreserved options
    · cases hreplaced : candidate.isReplaced options
      · simp
      · simp only [Bool.false_eq_true, if_false, if_true, freshIds]
        rw [List.singleton_append]
        exact List.perm_middle.symm
    · have hreplaced : candidate.isReplaced options = false := by
        unfold PointCandidate.isPreserved at hpreserved
        unfold PointCandidate.isReplaced
        grind
      simp [hreplaced]

/-- No point that keeps its id has one of the ids from 10001 on, as many as points are replaced. -/
def NoFreshIdTaken (models : CameraModels M R) (options : RetriangulationOptions R)
    (v2 : Reconstruction R) (observations : List (TriangulationObservation R)) : Prop :=
  ∀ candidates, judgedCandidates models options v2 observations = .ok candidates →
    ∀ candidate ∈ candidates, candidate.isPreserved options = true →
      ∀ k < candidates.countP (·.isReplaced options),
        candidate.oldPoint3dId ≠ 10001 + UInt64.ofNat k

/-- Of a source with unique ids, the points have unique ids exactly when no
point is preserved under an id that the counter hands out. -/
theorem pointIds_nodup_iff (models : CameraModels M R) (options : RetriangulationOptions R)
    (v2 : Reconstruction R) (observations : List (TriangulationObservation R))
    (reconstructionId : Uuid) (result : RetriangulationResult R)
    (hunique : (v2.points3D.map ReconPoint3D.point3dId).Nodup)
    (hresult : retriangulateFrom models options v2 observations reconstructionId = .ok result) :
    (result.reconstruction.points3D.map ReconPoint3D.point3dId).Nodup ↔
      NoFreshIdTaken models options v2 observations := by
  unfold retriangulateFrom at hresult
  obtain ⟨candidates, hcandidates, hresult⟩ := bind_eq_ok hresult
  cases hresult
  have hold : (candidates.map PointCandidate.oldPoint3dId).Nodup := by
    rwa [judgedCandidates_oldPoint3dId hcandidates]
  have hpreserved : ((candidates.filter (·.isPreserved options)).map
      PointCandidate.oldPoint3dId).Nodup :=
    hold.sublist (List.filter_sublist.map _)
  have hfresh : (freshIds 10001 (candidates.countP (·.isReplaced options))).Nodup := by
    apply nodup_freshIds
    refine le_trans List.countP_le_length ?_
    rw [← List.length_map PointCandidate.oldPoint3dId]
    exact length_le_of_nodup hold
  -- preserved ids, and those of the counter: each kind is without repetition
  have hperm := emitPoints_perm options v2 candidates { nextPointId := 10001 }
  refine hperm.nodup_iff.trans ?_
  simp only [List.map_nil, List.nil_append, List.nodup_append, hpreserved, hfresh, true_and]
  constructor
  · intro h candidates' hcandidates' candidate hmem hkept k hk heq
    rw [hcandidates] at hcandidates'
    cases hcandidates'
    refine h _ (List.mem_map.mpr ⟨candidate, List.mem_filter.mpr ⟨hmem, hkept⟩, rfl⟩) _
      (mem_freshIds.mpr ⟨k, hk, rfl⟩) heq
  · intro h id hid id' hid' heq
    obtain ⟨candidate, hcandidate, rfl⟩ := List.mem_map.mp hid
    obtain ⟨hmem, hkept⟩ := List.mem_filter.mp hcandidate
    obtain ⟨k, hk, rfl⟩ := mem_freshIds.mp hid'
    exact h candidates hcandidates candidate hmem hkept k hk heq

/-! ## A document that has been through the counter

The counter starts at the same number in every run. A document that a run has
made has points with its ids, and on the next run they meet those of the
counter. -/

/-- A pinhole camera with focal length one. The approximation of the arc cosine
is on the same side of the least parallax. -/
def samplePinhole : CameraModels Unit Rat where
  fromReconCamera _ := .ok ()
  project _ p := .ok (p 0 / p 2, p 1 / p 2)
  unproject _ pixel :=
    let n := Rat.sqrt (pixel.1 * pixel.1 + pixel.2 * pixel.2 + 1)
    .ok (.triple (pixel.1 / n) (pixel.2 / n) (1 / n))
  acos x := 1.57 - x
  max := 10 ^ 308

/-- Two cameras one and a half metres apart, and two points that both see. The
second point has moved by a metre; the first has the given id. -/
def sampleScene (firstId : UInt64) : Reconstruction Rat where
  cameras := [{ intrinsicModel := "PINHOLE", fx := 1, fy := 1, cx := 0, cy := 0, distortionModel := "NONE" }]
  images := [
    { imageId := 1, pose := ⟨.quadruple 0 0 0 1, .triple 0 0 0⟩ },
    { imageId := 2, pose := ⟨.quadruple 0 0 0 1, .triple 1.5 0 0⟩ }]
  points3D := [
    { point3dId := firstId, xyz := .triple 0.75 0 1, color := .triple 0 0 0, error := 0
      track := [⟨1, 0⟩, ⟨2, 0⟩] },
    { point3dId := 1, xyz := .triple 0 0 3, color := .triple 0 0 0, error := 0
      track := [⟨1, 1⟩, ⟨2, 1⟩] }]

def sampleKeypoints : List (TriangulationObservation Rat) := [
  ⟨1, 0, (0.75, 0)⟩, ⟨2, 0, (-0.75, 0)⟩, ⟨1, 1, (0, 0)⟩, ⟨2, 1, (-0.75, 0)⟩]

def sampleOptions : RetriangulationOptions Rat := ⟨2, 0.01⟩

/-- The result for the sample. -/
def sampleResult (firstId : UInt64) : Except ProjectError (RetriangulationResult Rat) :=
  retriangulateFrom samplePinhole sampleOptions (sampleScene firstId) sampleKeypoints ⟨1⟩

theorem sampleResult_ok {firstId : UInt64} {ids : List UInt64}
    (h : (sampleResult firstId).toOption.map
      (·.reconstruction.points3D.map ReconPoint3D.point3dId) = some ids) :
    ∃ result, sampleResult firstId = .ok result ∧
      result.reconstruction.points3D.map ReconPoint3D.point3dId = ids := by
  obtain ⟨result, hresult, hids⟩ := Option.map_eq_some_iff.mp h
  refine ⟨result, ?_, hids⟩
  cases hsample : sampleResult firstId with
  | error e =>
    rw [hsample] at hresult
    cases hresult
  | ok other =>
    rw [hsample] at hresult
    cases hresult
    rfl

/-- A first point that is preserved under the id 2 leaves the fresh id to the second. -/
theorem sample_ids_unique : ∃ result, sampleResult 2 = .ok result ∧
    (result.reconstruction.points3D.map ReconPoint3D.point3dId).Nodup ∧
    NoFreshIdTaken samplePinhole sampleOptions (sampleScene 2) sampleKeypoints := by
  have hsample : (sampleResult 2).toOption.map
      (·.reconstruction.points3D.map ReconPoint3D.point3dId) = some [2, 10001] := by
    decide +kernel
  obtain ⟨result, hresult, hids⟩ := sampleResult_ok hsample
  have hnodup : (result.reconstruction.points3D.map ReconPoint3D.point3dId).Nodup := by
    rw [hids]
    decide
  exact ⟨result, hresult, hnodup, (pointIds_nodup_iff samplePinhole sampleOptions (sampleScene 2)
    sampleKeypoints ⟨1⟩ result (by decide) hresult).mp hnodup⟩

/-- The point that an earlier call has made under the id 10001 is preserved, and
the next point that moves gets the same id. -/
theorem fresh_id_reused : ((sampleScene 10001).points3D.map ReconPoint3D.point3dId).Nodup ∧
    ∃ result, sampleResult 10001 = .ok result ∧
      ¬ (result.reconstruction.points3D.map ReconPoint3D.point3dId).Nodup := by
  refine ⟨by decide, ?_⟩
  have hsample : (sampleResult 10001).toOption.map
      (·.reconstruction.points3D.map ReconPoint3D.point3dId) = some [10001, 10001] := by
    decide +kernel
  obtain ⟨result, hresult, hids⟩ := sampleResult_ok hsample
  refine ⟨result, hresult, ?_⟩
  rw [hids]
  decide

end SpatialPlatform.Engine
