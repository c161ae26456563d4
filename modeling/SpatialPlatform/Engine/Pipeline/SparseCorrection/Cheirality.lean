import SpatialPlatform.Core.Geometry.ReprojectionLaw
import SpatialPlatform.Engine.Pipeline.SparseCorrection.PointIds
import SpatialPlatform.Lib.Coordinates

/-!
# Points in front of their cameras

On which side of its cameras `Retriangulate` puts a point. `TriangulateTwoRays`
looks at two cameras; the others are left to the residual, which is the largest
`double` for a point that one of them has behind itself, and to the threshold of
all residuals, which that number takes part in.

* `pointsInFront_iff` — when every point is in front of all cameras of its
  track.
* `sentinel_le_globalThreshold_iff` — the threshold lets the largest `double`
  pass from one half on.
-/

namespace SpatialPlatform.Engine

open SpatialPlatform.Core SpatialPlatform.Core.Geometry SpatialPlatform.Lib

variable {M R : Type} [DoubleArith R]

/-! ## Cameras and points

When a point is in front of a camera, and which cameras a candidate is measured
in. -/

/-- The depth of a point in a camera, as `ComputePointReprojectionError` has it. -/
def depthIn (view : CameraView M R) (xyz : Vector R 3) : R :=
  (mulVec3 (transpose3 (toRotationMatrix view.worldFromCamera.rotation))
    (sub3 xyz view.worldFromCamera.translation)) 2

/-- The point is in front of all cameras that the track names. -/
def InFront (views : List (CameraView M R)) (track : List TrackElement) (xyz : Vector R 3) : Prop :=
  ∀ element ∈ track, ∀ view ∈ findView views element.imageId, (0.0 : R) < depthIn view xyz

/-- Every point is in front of the cameras of its own track. -/
def PointsInFront (views : List (CameraView M R)) (points : List (ReconPoint3D R)) : Prop :=
  ∀ point ∈ points, InFront views point.track point.xyz

instance (views : List (CameraView M R)) (track : List TrackElement) (xyz : Vector R 3) :
    Decidable (InFront views track xyz) :=
  inferInstanceAs (Decidable (∀ element ∈ track, ∀ view ∈ findView views element.imageId,
    (0.0 : R) < depthIn view xyz))

instance (views : List (CameraView M R)) (points : List (ReconPoint3D R)) :
    Decidable (PointsInFront views points) :=
  inferInstanceAs (Decidable (∀ point ∈ points, InFront views point.track point.xyz))

/-- One of the cameras has the point behind itself. -/
def IsBehind (seen : List (CameraView M R × (R × R))) (xyz : Vector R 3) : Prop :=
  ∃ s ∈ seen, depthIn s.1 xyz ≤ (0.0 : R)

section

variable (models : CameraModels M R) (views : List (CameraView M R))
  (keypoints : List (TriangulationObservation R)) (v2 : Reconstruction R)

/-- The track that the point of a candidate gets. -/
def keptTrack (candidate : PointCandidate R) : List TrackElement :=
  ((sourcePoint v2 candidate).map ReconPoint3D.track).getD []

/-- The elements of a track that have a camera and a keypoint. -/
def seenIn (track : List TrackElement) : List (CameraView M R × (R × R)) :=
  track.filterMap fun element => do
    let view ← findView views element.imageId
    let keypoint ← findKeypoint keypoints element.imageId element.point2dIdx
    return (view, keypoint)

/-- The residual that the second pass compares. It stays zero without two cameras. -/
def residualOf (candidate : PointCandidate R) : Except ProjectError R :=
  let seen := seenIn views keypoints (keptTrack v2 candidate)
  if seen.length < 2 then return 0.0
  else computePointReprojectionError models candidate.xyz seen

end

/-! ## The residual

The first pass measures one candidate after the other and touches nothing of it
but the residual. The sum is a loop over the cameras that see the point; a
camera with the point behind it ends the loop, by induction over those that were
seen. -/

/-- A sum that comes to an end ends at a camera that has the point behind itself. -/
theorem sumErrors_of_isBehind {models : CameraModels M R} {xyz : Vector R 3}
    {all seen : List (CameraView M R × (R × R))} {sum residual : R}
    (hresidual : computePointReprojectionError.sumErrors models xyz all seen sum = .ok residual)
    (hbehind : IsBehind seen xyz) : residual = models.max := by
  induction seen generalizing sum with
  | nil =>
      obtain ⟨s, hs, _⟩ := hbehind
      exact absurd hs List.not_mem_nil
  | cons s seen ih =>
      obtain ⟨view, keypoint⟩ := s
      simp only [computePointReprojectionError.sumErrors] at hresidual
      split at hresidual
      · cases hresidual
        rfl
      rename_i hfront
      obtain ⟨projected, _, hresidual⟩ := bind_eq_ok hresidual
      split at hresidual
      · cases hresidual
        rfl
      -- The camera at hand has the point in front, so it is one of the others.
      · obtain ⟨t, ht, hdepth⟩ := hbehind
        rcases List.mem_cons.mp ht with rfl | ht
        · exact absurd hdepth hfront
        · exact ih hresidual ⟨t, ht, hdepth⟩

/-- What the first pass makes of a candidate: everything but the residual stays. -/
structure Measures (models : CameraModels M R) (views : List (CameraView M R))
    (keypoints : List (TriangulationObservation R)) (v2 : Reconstruction R)
    (candidate measured : PointCandidate R) : Prop where
  kept : measured = { candidate with meanResidualPx := measured.meanResidualPx }
  residual : candidate.geometricAcceptance = .accepted →
    residualOf models views keypoints v2 candidate = .ok measured.meanResidualPx

theorem measureResidual_spec {models : CameraModels M R} {views : List (CameraView M R)}
    {keypoints : List (TriangulationObservation R)} {v2 : Reconstruction R}
    {candidate : PointCandidate R} {measured : PointCandidate R × Option R}
    (hzero : candidate.meanResidualPx = 0.0)
    (h : measureResidual models views keypoints v2 candidate = .ok measured) :
    Measures models views keypoints v2 candidate measured.1 := by
  unfold measureResidual at h
  split at h
  · rename_i hrejected
    cases h
    exact ⟨rfl, fun haccepted => absurd haccepted hrejected⟩
  split at h
  · rename_i hsource
    cases h
    refine ⟨rfl, fun _ => ?_⟩
    rw [residualOf, keptTrack, hsource, hzero]
    rfl
  · rename_i point hsource
    have htrack : keptTrack v2 candidate = point.track := by
      rw [keptTrack, hsource]
      rfl
    simp only at h
    split at h
    · -- measured in fewer than two cameras, a candidate keeps the residual of its start
      rename_i hfew
      cases h
      refine ⟨rfl, fun _ => ?_⟩
      rw [residualOf, htrack, hzero]
      exact if_pos hfew
    · rename_i hseen
      obtain ⟨residual, hresidual, h⟩ := bind_eq_ok h
      cases h
      refine ⟨rfl, fun _ => ?_⟩
      rw [residualOf, htrack]
      exact (if_neg hseen).trans hresidual

/-- A candidate has no residual yet. -/
theorem candidateOf_meanResidualPx {models : CameraModels M R} {views : List (CameraView M R)}
    {keypoints : List (TriangulationObservation R)} {options : RetriangulationOptions R}
    {point : ReconPoint3D R} {candidate : PointCandidate R}
    (h : candidateOf models views keypoints options point = .ok candidate) :
    candidate.meanResidualPx = 0.0 := by
  unfold candidateOf at h
  split at h
  · split at h
    · obtain ⟨tc, _, h⟩ := bind_eq_ok h
      cases h
      rfl
    · cases h
      rfl
  · cases h
    rfl

/-! ## Points that are built -/

/-- Which candidates the second pass leaves accepted. -/
theorem judge_isAccepted (threshold : R) (candidate : PointCandidate R) :
    (judge threshold candidate).isAccepted = true ↔
      candidate.geometricAcceptance = .accepted ∧ candidate.meanResidualPx ≤ threshold := by
  unfold judge PointCandidate.isAccepted
  split_ifs with hrejected hresidual
  · simp [hrejected]
  · have haccepted := not_not.mp hrejected
    simp [haccepted, hresidual]
  · simp [hresidual]

@[simp] theorem judge_xyz (threshold : R) (candidate : PointCandidate R) :
    (judge threshold candidate).xyz = candidate.xyz := by
  unfold judge
  split_ifs <;> rfl

@[simp] theorem keptTrack_judge (v2 : Reconstruction R) (threshold : R)
    (candidate : PointCandidate R) :
    keptTrack v2 (judge threshold candidate) = keptTrack v2 candidate := by
  simp only [keptTrack, sourcePoint, judge_oldPoint3dId]

/-- What one round adds to the places and tracks. -/
theorem emitPoint_places (options : RetriangulationOptions R) (v2 : Reconstruction R)
    (emitted : EmittedPoints R) (candidate : PointCandidate R) :
    (emitPoint options v2 emitted candidate).points3D.map (fun p => (p.xyz, p.track)) =
      emitted.points3D.map (fun p => (p.xyz, p.track)) ++
        if candidate.isAccepted then [(candidate.xyz, keptTrack v2 candidate)] else [] := by
  unfold emitPoint keptTrack
  cases candidate.isAccepted <;> cases candidate.isStable options <;> simp

/-- The points are the accepted candidates, with the tracks they had in the source. -/
theorem emitPoints_places (options : RetriangulationOptions R) (v2 : Reconstruction R)
    (candidates : List (PointCandidate R)) (emitted : EmittedPoints R) :
    (candidates.foldl (emitPoint options v2) emitted).points3D.map (fun p => (p.xyz, p.track)) =
      emitted.points3D.map (fun p => (p.xyz, p.track)) ++
        (candidates.filter PointCandidate.isAccepted).map
          fun candidate => (candidate.xyz, keptTrack v2 candidate) := by
  induction candidates generalizing emitted with
  | nil => simp
  | cons candidate candidates ih =>
      rw [List.foldl_cons, ih, emitPoint_places, List.append_assoc, List.filter_cons]
      cases candidate.isAccepted <;> simp

/-! ## Both passes

The first pass up to the threshold, as one record, and what the second pass
makes of it. -/

/-- What the first pass has when it is done: the candidates, and the same
candidates with their residuals. -/
structure FirstPass (M R : Type) where
  views : List (CameraView M R)
  keypoints : List (TriangulationObservation R)
  candidates : List (PointCandidate R)
  measured : List (PointCandidate R × Option R)

/-- `kpt_sorted`. -/
def sortedKeypoints (observations : List (TriangulationObservation R)) :
    List (TriangulationObservation R) :=
  observations.insertionSort fun a b => keypointLt b a = false

/-- The first pass of `Retriangulate`, up to the threshold. -/
def firstPass (models : CameraModels M R) (options : RetriangulationOptions R)
    (v2 : Reconstruction R) (observations : List (TriangulationObservation R)) :
    Except ProjectError (FirstPass M R) := do
  let views ← initializeReprojectionViews models v2
  if observations.any fun o =>
      !Double.isFinite o.keypoint2d.1 || !Double.isFinite o.keypoint2d.2 then
    throw ⟨.validationDomain, "retriangulate: non-finite keypoint in observations"⟩
  else
    let keypoints := sortedKeypoints observations
    let candidates ← v2.points3D.mapM (candidateOf models views keypoints options)
    let measured ← candidates.mapM (measureResidual models views keypoints v2)
    return ⟨views, keypoints, candidates, measured⟩

/-- The threshold of the second pass. -/
def FirstPass.threshold (pass : FirstPass M R) : R :=
  globalThreshold (pass.measured.filterMap Prod.snd)

theorem judgedCandidates_eq_ok {models : CameraModels M R} {options : RetriangulationOptions R}
    {v2 : Reconstruction R} {observations : List (TriangulationObservation R)}
    {judged : List (PointCandidate R)}
    (h : judgedCandidates models options v2 observations = .ok judged) :
    ∃ pass, firstPass models options v2 observations = .ok pass ∧
      judged = pass.measured.map fun m => judge pass.threshold m.1 := by
  unfold judgedCandidates at h
  unfold firstPass
  obtain ⟨views, hviews, h⟩ := bind_eq_ok h
  split at h
  · cases h
  rename_i hfinite
  obtain ⟨candidates, hcandidates, h⟩ := bind_eq_ok h
  obtain ⟨measured, hmeasured, h⟩ := bind_eq_ok h
  cases h
  refine ⟨⟨views, sortedKeypoints observations, candidates, measured⟩,
    bind_eq_ok_iff.mpr ⟨views, hviews, ?_⟩, rfl⟩
  rw [if_neg hfinite]
  exact bind_eq_ok_iff.mpr ⟨candidates, hcandidates, bind_eq_ok_iff.mpr ⟨measured, hmeasured, rfl⟩⟩

theorem firstPass_spec {models : CameraModels M R} {options : RetriangulationOptions R}
    {v2 : Reconstruction R} {observations : List (TriangulationObservation R)}
    {pass : FirstPass M R} (h : firstPass models options v2 observations = .ok pass) :
    initializeReprojectionViews models v2 = .ok pass.views ∧
      (∀ candidate ∈ pass.candidates, ∃ m ∈ pass.measured,
        Measures models pass.views pass.keypoints v2 candidate m.1) ∧
      ∀ m ∈ pass.measured, ∃ candidate ∈ pass.candidates,
        Measures models pass.views pass.keypoints v2 candidate m.1 := by
  unfold firstPass at h
  obtain ⟨views, hviews, h⟩ := bind_eq_ok h
  split at h
  · cases h
  obtain ⟨candidates, hcandidates, h⟩ := bind_eq_ok h
  obtain ⟨measured, hmeasured, h⟩ := bind_eq_ok h
  cases h
  have hzero : ∀ candidate ∈ candidates, candidate.meanResidualPx = 0.0 := by
    intro candidate hcandidate
    obtain ⟨point, _, hpoint⟩ := (exists_of_mapM hcandidates).2 candidate hcandidate
    exact candidateOf_meanResidualPx hpoint
  obtain ⟨hleft, hright⟩ := exists_of_mapM hmeasured
  refine ⟨hviews, fun candidate hcandidate => ?_, fun m hm => ?_⟩
  · obtain ⟨m, hm, hstep⟩ := hleft candidate hcandidate
    exact ⟨m, hm, measureResidual_spec (hzero candidate hcandidate) hstep⟩
  · obtain ⟨candidate, hcandidate, hstep⟩ := hright m hm
    exact ⟨candidate, hcandidate, measureResidual_spec (hzero candidate hcandidate) hstep⟩

/-! ## When the points are in front

What becomes a point was accepted with a residual up to the threshold, or
carries no residual. A residual speaks for the cameras that were measured; the
condition is about the rest of the track, and about thresholds that cannot tell
a measured point from the largest `double`. -/

theorem pointsInFront_iff_places {views : List (CameraView M R)} {points : List (ReconPoint3D R)} :
    PointsInFront views points ↔
      ∀ place ∈ points.map fun p => (p.xyz, p.track), InFront views place.2 place.1 := by
  simp [PointsInFront]

/-- What is accepted and has a residual up to the threshold becomes a point. -/
theorem pointsInFront_iff_candidates {models : CameraModels M R}
    {options : RetriangulationOptions R} {v2 : Reconstruction R}
    {observations : List (TriangulationObservation R)} {reconstructionId : Uuid}
    {pass : FirstPass M R} {result : RetriangulationResult R}
    (hpass : firstPass models options v2 observations = .ok pass)
    (hresult : retriangulateFrom models options v2 observations reconstructionId = .ok result) :
    PointsInFront pass.views result.reconstruction.points3D ↔
      ∀ candidate ∈ pass.candidates, candidate.geometricAcceptance = .accepted →
        ∀ residual, residualOf models pass.views pass.keypoints v2 candidate = .ok residual →
          residual ≤ pass.threshold → InFront pass.views (keptTrack v2 candidate) candidate.xyz := by
  unfold retriangulateFrom at hresult
  obtain ⟨judged, hjudged, hresult⟩ := bind_eq_ok hresult
  cases hresult
  obtain ⟨pass', hpass', rfl⟩ := judgedCandidates_eq_ok hjudged
  cases hpass.symm.trans hpass'
  obtain ⟨_, hleft, hright⟩ := firstPass_spec hpass
  -- the second pass numbers what it keeps, and moves nothing
  have hplaces := emitPoints_places options v2
    (pass.measured.map fun m => judge pass.threshold m.1) { nextPointId := 10001 }
  have hpoints : PointsInFront pass.views
      (emitPoints options v2 (pass.measured.map fun m => judge pass.threshold m.1)).points3D ↔
      ∀ m ∈ pass.measured, m.1.geometricAcceptance = .accepted →
        m.1.meanResidualPx ≤ pass.threshold → InFront pass.views (keptTrack v2 m.1) m.1.xyz := by
    rw [pointsInFront_iff_places, emitPoints, hplaces]
    simp only [List.map_nil, List.nil_append, List.filter_map, List.forall_mem_map, List.mem_filter,
      Function.comp_apply, judge_isAccepted, keptTrack_judge, judge_xyz, and_imp]
  refine hpoints.trans ⟨fun h candidate hcandidate haccepted residual hresidual hle => ?_,
    fun h m hm haccepted hle => ?_⟩
  · obtain ⟨m, hm, hkept, hsame⟩ := hleft candidate hcandidate
    cases hresidual.symm.trans (hsame haccepted)
    have hfront := h m hm (by rw [hkept, haccepted]) hle
    rw [hkept] at hfront
    exact hfront
  · obtain ⟨candidate, hcandidate, hkept, hsame⟩ := hright m hm
    rw [hkept] at haccepted ⊢
    exact h candidate hcandidate haccepted _ (hsame haccepted) hle

section

variable (pass : FirstPass M R) (v2 : Reconstruction R) (candidate : PointCandidate R)

/-- The cameras that a candidate is measured in. -/
def FirstPass.seen : List (CameraView M R × (R × R)) :=
  seenIn pass.views pass.keypoints (keptTrack v2 candidate)

/-- The candidate is measured, and one of the cameras it is measured in has it behind itself. -/
def FirstPass.ScoredBehind : Prop :=
  2 ≤ (pass.seen v2 candidate).length ∧ IsBehind (pass.seen v2 candidate) candidate.xyz

/-- The candidate is measured, no camera it is measured in has it behind itself,
and its residual is up to the threshold. -/
def FirstPass.Passes (models : CameraModels M R) : Prop :=
  2 ≤ (pass.seen v2 candidate).length ∧ ¬ IsBehind (pass.seen v2 candidate) candidate.xyz ∧
    ∃ residual, residualOf models pass.views pass.keypoints v2 candidate = .ok residual ∧
      residual ≤ pass.threshold

end

/-- What the two passes need to keep every point before its cameras. The
residual looks after the cameras that a candidate is measured in, as long as the
number that stands for a camera on the wrong side is told apart; it does not
look at the cameras without a keypoint, and a candidate that is measured in
fewer than two cameras has none. -/
structure FirstPass.ChecksDepths (pass : FirstPass M R) (models : CameraModels M R)
    (v2 : Reconstruction R) : Prop where
  /-- With a candidate behind a camera that has its keypoint, the largest
  `double` does not become the threshold or less. -/
  sentinel : ∀ candidate ∈ pass.candidates, candidate.geometricAcceptance = .accepted →
    pass.ScoredBehind v2 candidate → ¬ models.max ≤ pass.threshold
  /-- No depth is a NaN, which is neither on one side nor on the other. -/
  signed : ∀ candidate ∈ pass.candidates, candidate.geometricAcceptance = .accepted →
    pass.Passes v2 candidate models → ∀ s ∈ pass.seen v2 candidate,
      depthIn s.1 candidate.xyz ≤ (0.0 : R) ∨ (0.0 : R) < depthIn s.1 candidate.xyz
  /-- The cameras of the kept track without a keypoint. -/
  unseen : ∀ candidate ∈ pass.candidates, candidate.geometricAcceptance = .accepted →
    pass.Passes v2 candidate models → ∀ element ∈ keptTrack v2 candidate,
      findKeypoint pass.keypoints element.imageId element.point2dIdx = none →
        ∀ view ∈ findView pass.views element.imageId, (0.0 : R) < depthIn view candidate.xyz
  /-- The candidates that are measured in fewer than two cameras. -/
  few : ∀ candidate ∈ pass.candidates, candidate.geometricAcceptance = .accepted →
    (pass.seen v2 candidate).length < 2 → (0.0 : R) ≤ pass.threshold →
      InFront pass.views (keptTrack v2 candidate) candidate.xyz

theorem residualOf_of_few {models : CameraModels M R} {v2 : Reconstruction R} {pass : FirstPass M R}
    {candidate : PointCandidate R} (hfew : (pass.seen v2 candidate).length < 2) :
    residualOf models pass.views pass.keypoints v2 candidate = .ok 0.0 := by
  rw [residualOf]
  exact if_pos hfew

theorem residualOf_of_scoredBehind {models : CameraModels M R} {v2 : Reconstruction R}
    {pass : FirstPass M R} {candidate : PointCandidate R} {residual : R}
    (hbehind : pass.ScoredBehind v2 candidate)
    (hresidual : residualOf models pass.views pass.keypoints v2 candidate = .ok residual) :
    residual = models.max := by
  obtain ⟨htwo, hbehind⟩ := hbehind
  rw [residualOf, ← FirstPass.seen, if_neg (Nat.not_lt.mpr htwo)] at hresidual
  exact sumErrors_of_isBehind hresidual hbehind

omit [DoubleArith R] in
/-- The cameras that see a point are cameras of its track. -/
theorem mem_seenIn {views : List (CameraView M R)} {keypoints : List (TriangulationObservation R)}
    {track : List TrackElement} {s : CameraView M R × (R × R)} :
    s ∈ seenIn views keypoints track ↔ ∃ element ∈ track, findView views element.imageId = some s.1 ∧
      findKeypoint keypoints element.imageId element.point2dIdx = some s.2 := by
  unfold seenIn
  rw [List.mem_filterMap]
  refine exists_congr fun element => and_congr_right fun _ => ?_
  constructor
  · intro h
    obtain ⟨view, hview, h⟩ := Option.bind_eq_some_iff.mp h
    obtain ⟨keypoint, hkeypoint, h⟩ := Option.bind_eq_some_iff.mp h
    cases h
    exact ⟨hview, hkeypoint⟩
  · rintro ⟨hview, hkeypoint⟩
    exact Option.bind_eq_some_iff.mpr ⟨s.1, hview, Option.bind_eq_some_iff.mpr ⟨s.2, hkeypoint, rfl⟩⟩

theorem InFront.of_mem_seenIn {views : List (CameraView M R)}
    {keypoints : List (TriangulationObservation R)} {track : List TrackElement} {xyz : Vector R 3}
    (h : InFront views track xyz) {s : CameraView M R × (R × R)}
    (hs : s ∈ seenIn views keypoints track) : (0.0 : R) < depthIn s.1 xyz := by
  obtain ⟨element, helement, hview, -⟩ := mem_seenIn.mp hs
  exact h element helement s.1 hview

/-- A camera that has the point behind itself does not have it in front. -/
theorem not_inFront_of_isBehind (hsign : ∀ depth : R, depth ≤ 0.0 → ¬ (0.0 : R) < depth)
    {views : List (CameraView M R)} {keypoints : List (TriangulationObservation R)}
    {track : List TrackElement} {xyz : Vector R 3}
    (hbehind : IsBehind (seenIn views keypoints track) xyz) : ¬ InFront views track xyz := by
  obtain ⟨s, hs, hdepth⟩ := hbehind
  exact fun hfront => hsign _ hdepth (hfront.of_mem_seenIn hs)

/-- What the residual is good for: a candidate up to a threshold that tells the
largest `double` apart is in front of every camera it is measured in. -/
theorem FirstPass.ChecksDepths.inFront {pass : FirstPass M R} {models : CameraModels M R}
    {v2 : Reconstruction R} (h : pass.ChecksDepths models v2) {candidate : PointCandidate R}
    (hcandidate : candidate ∈ pass.candidates) (haccepted : candidate.geometricAcceptance = .accepted)
    {residual : R} (hresidual : residualOf models pass.views pass.keypoints v2 candidate = .ok residual)
    (hle : residual ≤ pass.threshold) : InFront pass.views (keptTrack v2 candidate) candidate.xyz := by
  rcases Nat.lt_or_ge (pass.seen v2 candidate).length 2 with hfew | htwo
  · rw [residualOf_of_few hfew] at hresidual
    cases hresidual
    exact h.few candidate hcandidate haccepted hfew hle
  · have hfront : ¬ IsBehind (pass.seen v2 candidate) candidate.xyz := by
      intro hbehind
      rw [residualOf_of_scoredBehind ⟨htwo, hbehind⟩ hresidual] at hle
      exact h.sentinel candidate hcandidate haccepted ⟨htwo, hbehind⟩ hle
    have hpasses : pass.Passes v2 candidate models := ⟨htwo, hfront, residual, hresidual, hle⟩
    intro element helement view hview
    cases hkeypoint : findKeypoint pass.keypoints element.imageId element.point2dIdx with
    | none => exact h.unseen candidate hcandidate haccepted hpasses element helement hkeypoint view hview
    | some keypoint =>
        have hseen : (view, keypoint) ∈ pass.seen v2 candidate :=
          mem_seenIn.mpr ⟨element, helement, hview, hkeypoint⟩
        rcases h.signed candidate hcandidate haccepted hpasses _ hseen with hdepth | hdepth
        · exact absurd ⟨_, hseen, hdepth⟩ hfront
        · exact hdepth

/-- **Points in front of their cameras.** Every point is in front of the cameras
of its track exactly if the threshold tells the largest `double` apart, and the
points are on the right side where the residual does not look. -/
theorem pointsInFront_iff (hsign : ∀ depth : R, depth ≤ 0.0 → ¬ (0.0 : R) < depth)
    (models : CameraModels M R) (options : RetriangulationOptions R) (v2 : Reconstruction R)
    (observations : List (TriangulationObservation R)) (reconstructionId : Uuid)
    (views : List (CameraView M R)) (result : RetriangulationResult R)
    (hviews : initializeReprojectionViews models v2 = .ok views)
    (hresult : retriangulateFrom models options v2 observations reconstructionId = .ok result) :
    PointsInFront views result.reconstruction.points3D ↔
      ∀ pass, firstPass models options v2 observations = .ok pass →
        pass.ChecksDepths models v2 := by
  obtain ⟨judged, hjudged, _⟩ := bind_eq_ok hresult
  obtain ⟨pass, hpass, _⟩ := judgedCandidates_eq_ok hjudged
  obtain ⟨hsame, hleft, _⟩ := firstPass_spec hpass
  cases hviews.symm.trans hsame
  rw [pointsInFront_iff_candidates hpass hresult]
  constructor
  · intro h pass' hpass'
    cases hpass.symm.trans hpass'
    -- a point that breaks one of the four parts is not in front of a camera of its track
    refine ⟨fun candidate hcandidate haccepted hbehind hmax => ?_,
      fun candidate hcandidate haccepted hpasses s hs => ?_,
      fun candidate hcandidate haccepted hpasses element helement _ view hview => ?_,
      fun candidate hcandidate haccepted hfew hle => ?_⟩
    · obtain ⟨m, _, hmeasures⟩ := hleft candidate hcandidate
      have hresidual := hmeasures.residual haccepted
      rw [residualOf_of_scoredBehind hbehind hresidual] at hresidual
      exact not_inFront_of_isBehind hsign hbehind.2
        (h candidate hcandidate haccepted _ hresidual hmax)
    · obtain ⟨-, -, residual, hresidual, hle⟩ := hpasses
      exact .inr ((h candidate hcandidate haccepted residual hresidual hle).of_mem_seenIn hs)
    · obtain ⟨-, -, residual, hresidual, hle⟩ := hpasses
      exact h candidate hcandidate haccepted residual hresidual hle element helement view hview
    · exact h candidate hcandidate haccepted 0.0 (residualOf_of_few hfew) hle
  · intro h candidate hcandidate haccepted residual hresidual hle
    exact (h pass hpass).inFront hcandidate haccepted hresidual hle

/-! ## The threshold without rounding

The threshold is three times the median. So it reaches the largest `double`
exactly if half of the residuals are that number, as long as the others are
small. -/

/-- What stands at a place of the sorted residuals. -/
theorem getD_sorted_residuals {residuals : List ℝ} {sentinel : ℝ} (hpos : 0 < sentinel)
    (hothers : ∀ r ∈ residuals, r = sentinel ∨ 0 ≤ r ∧ 3 * r < sentinel) {i : ℕ}
    (hi : i < residuals.length) :
    if residuals.length ≤ i + residuals.count sentinel
    then (residuals.insertionSort (· ≤ ·)).getD i 0.0 = sentinel
    else 0 ≤ (residuals.insertionSort (· ≤ ·)).getD i 0.0 ∧
      3 * (residuals.insertionSort (· ≤ ·)).getD i 0.0 < sentinel := by
  have htop : ∀ r ∈ residuals, r ≤ sentinel := by
    intro r hr
    rcases hothers r hr with rfl | ⟨hnonneg, hsmall⟩ <;> linarith
  have hlength : ((residuals.filter (· ≠ sentinel)).insertionSort (· ≤ ·)).length +
      residuals.count sentinel = residuals.length := by
    have h := congrArg List.length (Tally.insertionSort_top htop)
    rw [List.length_append, List.length_replicate, List.length_insertionSort] at h
    exact h.symm
  rw [Tally.insertionSort_top htop]
  split_ifs with hlast
  · rw [List.getD_append_right _ _ _ _ (by omega),
      List.getD_eq_getElem _ _ (by rw [List.length_replicate]; omega)]
    exact List.getElem_replicate _
  · rw [List.getD_append _ _ _ _ (by omega), List.getD_eq_getElem _ _ (by omega)]
    have hmem := List.getElem_mem (l := (residuals.filter (· ≠ sentinel)).insertionSort (· ≤ ·))
      (show i < _ by omega)
    obtain ⟨hr, hne⟩ := List.mem_filter.mp ((List.perm_insertionSort _ _).mem_iff.mp hmem)
    exact (hothers _ hr).resolve_left (of_decide_eq_true hne)

/-- The residual that stands for a camera on the wrong side passes the threshold
as soon as one half of all residuals is of that kind. -/
theorem sentinel_le_globalThreshold_iff {residuals : List ℝ} {sentinel : ℝ} (hfloor : 2 < sentinel)
    (hothers : ∀ r ∈ residuals, r = sentinel ∨ 0 ≤ r ∧ 3 * r < sentinel) :
    sentinel ≤ globalThreshold residuals ↔
      residuals ≠ [] ∧ residuals.length ≤ 2 * residuals.count sentinel := by
  unfold globalThreshold
  by_cases hnil : residuals = []
  · subst hnil
    norm_num [hfloor]
  have hpos : 0 < residuals.length := List.length_pos_iff.mpr hnil
  have hnth := fun i hi => getD_sorted_residuals (i := i) (by linarith) hothers hi
  have hmiddle := hnth (residuals.length / 2) (by omega)
  have hbelow := hnth (residuals.length / 2 - 1) (by omega)
  simp only [List.isEmpty_iff, hnil, if_false, List.length_insertionSort, ne_eq, not_false_eq_true,
    true_and]
  generalize (residuals.insertionSort (· ≤ ·)).getD (residuals.length / 2) 0.0 = upper at hmiddle ⊢
  generalize (residuals.insertionSort (· ≤ ·)).getD (residuals.length / 2 - 1) 0.0 = lower
    at hbelow ⊢
  by_cases hhalf : residuals.length ≤ residuals.length / 2 + residuals.count sentinel
  -- The upper middle is the sentinel, and the lower middle is not negative.
  · rw [if_pos hhalf] at hmiddle
    subst hmiddle
    have hlower : 0 ≤ lower := by
      split_ifs at hbelow
      · linarith
      · exact hbelow.1
    refine iff_of_true ?_ (by omega)
    norm_num
    split_ifs <;> linarith
  -- Both are small.
  · rw [if_neg hhalf] at hmiddle
    rw [if_neg (by omega)] at hbelow
    refine iff_of_false ?_ (by omega)
    norm_num
    split_ifs <;> linarith

/-! ## A third camera

Two cameras see the point in front of them, the third one is free. If it looks
away, the only residual of the run is the largest `double`, and so is the
threshold. -/

/-- A point with three cameras in its track. The third one has it at the given depth. -/
def threeCameras (depth : Rat) : Reconstruction Rat where
  cameras := (sampleScene 2).cameras
  images := (sampleScene 2).images ++
    [{ imageId := 3, pose := ⟨.quadruple 0 0 0 1, .triple 0.75 0 (1 - depth)⟩ }]
  points3D := [
    { point3dId := 2, xyz := .triple 0.75 0 1, color := .triple 0 0 0, error := 0
      track := [⟨1, 0⟩, ⟨2, 0⟩, ⟨3, 0⟩] }]

def threeKeypoints : List (TriangulationObservation Rat) :=
  [⟨1, 0, (0.75, 0)⟩, ⟨2, 0, (-0.75, 0)⟩, ⟨3, 0, (0, 0)⟩]

/-- The views and the result for the three cameras. -/
def threeCameraRun (depth : Rat) :
    Except ProjectError (List (CameraView Unit Rat) × RetriangulationResult Rat) := do
  let views ← initializeReprojectionViews samplePinhole (threeCameras depth)
  let result ← retriangulateFrom samplePinhole sampleOptions (threeCameras depth) threeKeypoints ⟨1⟩
  return (views, result)

theorem threeCameraRun_ok {depth : Rat} {front : Bool}
    (h : (threeCameraRun depth).toOption.map
      (fun run => decide (PointsInFront run.1 run.2.reconstruction.points3D)) = some front) :
    ∃ views result, initializeReprojectionViews samplePinhole (threeCameras depth) = .ok views ∧
      retriangulateFrom samplePinhole sampleOptions (threeCameras depth) threeKeypoints ⟨1⟩ =
        .ok result ∧
      (PointsInFront views result.reconstruction.points3D ↔ front = true) := by
  obtain ⟨run, hrun, hfront⟩ := Option.map_eq_some_iff.mp h
  cases hthree : threeCameraRun depth with
  | error e =>
      rw [hthree] at hrun
      cases hrun
  | ok other =>
      rw [hthree] at hrun
      cases hrun
      obtain ⟨views, hviews, hthree⟩ := bind_eq_ok hthree
      obtain ⟨result, hresult, hthree⟩ := bind_eq_ok hthree
      cases hthree
      exact ⟨views, result, hviews, hresult, by rw [← hfront, decide_eq_true_iff]⟩

/-- A third camera that looks at the point. -/
theorem threeCameras_before : ∃ views result,
    initializeReprojectionViews samplePinhole (threeCameras 4) = .ok views ∧
      retriangulateFrom samplePinhole sampleOptions (threeCameras 4) threeKeypoints ⟨1⟩ = .ok result ∧
      PointsInFront views result.reconstruction.points3D ∧
      ∀ pass, firstPass samplePinhole sampleOptions (threeCameras 4) threeKeypoints = .ok pass →
        pass.ChecksDepths samplePinhole (threeCameras 4) := by
  have hrun : (threeCameraRun 4).toOption.map
      (fun run => decide (PointsInFront run.1 run.2.reconstruction.points3D)) = some true := by
    decide +kernel
  obtain ⟨views, result, hviews, hresult, hfront⟩ := threeCameraRun_ok hrun
  exact ⟨views, result, hviews, hresult, hfront.mpr rfl,
    (pointsInFront_iff (fun _ => not_lt.mpr) samplePinhole sampleOptions (threeCameras 4)
      threeKeypoints ⟨1⟩ views result hviews hresult).mp (hfront.mpr rfl)⟩

/-- A third camera with its back to the point: the largest `double` is the only
residual, so it is the median too. -/
theorem third_camera_behind : ∃ views result,
    initializeReprojectionViews samplePinhole (threeCameras (-4)) = .ok views ∧
      retriangulateFrom samplePinhole sampleOptions (threeCameras (-4)) threeKeypoints ⟨1⟩ =
        .ok result ∧
      ¬ PointsInFront views result.reconstruction.points3D := by
  have hrun : (threeCameraRun (-4)).toOption.map
      (fun run => decide (PointsInFront run.1 run.2.reconstruction.points3D)) = some false := by
    decide +kernel
  obtain ⟨views, result, hviews, hresult, hfront⟩ := threeCameraRun_ok hrun
  exact ⟨views, result, hviews, hresult, fun h => Bool.false_ne_true (hfront.mp h)⟩

end SpatialPlatform.Engine
