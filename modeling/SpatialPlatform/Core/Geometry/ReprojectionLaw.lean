import Mathlib.Data.List.GetD
import SpatialPlatform.Core.Geometry.Reprojection
import SpatialPlatform.Core.Geometry.TwoRays
import SpatialPlatform.Lib.Fallible
import SpatialPlatform.Lib.Replace

/-!
# Reprojection metrics without rounding

What the metrics of `EvaluateReprojection` have in common, whatever the cameras
see.

* `evaluateReprojection_law` — the counts add up, half of the observations are
  inliers, and the order of the inputs does not matter.
-/

namespace SpatialPlatform.Core.Geometry

open SpatialPlatform.Core SpatialPlatform.Lib

/-! ## The counts add up -/

section

variable {R : Type} {ι : Type} [DecidableEq ι] [LE ι] [DecidableLE ι]

theorem length_inliersOf_add [DoubleArith R] (threshold : R) (residuals : List R) :
    (inliersOf threshold residuals).length + (outliersOf threshold residuals).length =
      residuals.length := by
  have hsplit := List.length_eq_length_filter_add (l := residuals) fun r => decide (r ≤ threshold)
  simpa [inliersOf, outliersOf] using hsplit.symm

theorem nodup_idsOf (ids : List ι) : (idsOf ids).Nodup :=
  (List.perm_insertionSort _ _).nodup_iff.mpr (Tally.distinct_spec ids).1

theorem mem_idsOf {ids : List ι} {id : ι} : id ∈ idsOf ids ↔ id ∈ ids :=
  (List.perm_insertionSort _ _).mem_iff.trans ((Tally.distinct_spec ids).2 id)

/-- What has a property, counted id by id, is all that has it. -/
theorem sum_residualsOf (key : ReprojectionObservation R → ι)
    (measured : List (ReprojectionObservation R × R)) (p : R → Bool) :
    ((idsOf (measured.map (key ·.1))).map fun id =>
      ((residualsOf key measured id).filter p).length).sum =
      ((measured.map Prod.snd).filter p).length := by
  have hcount : ∀ id, ((residualsOf key measured id).filter p).length =
      (measured.filter fun m => p m.2).countP
        fun m : ReprojectionObservation R × R => key m.1 = id := by
    intro id
    rw [residualsOf, List.filter_map, List.length_map, List.filter_filter,
      ← List.countP_eq_length_filter, List.countP_filter]
    exact List.countP_congr fun m _ => by simp [and_comm]
  have hall : ((measured.map Prod.snd).filter p).length =
      (measured.filter fun m => p m.2).length := by
    rw [List.filter_map, List.length_map]
    rfl
  simp only [hcount]
  rw [hall]
  refine Tally.sum_countP_key (nodup_idsOf _)
    (fun m : ReprojectionObservation R × R => key m.1) ?_
  intro m hm
  exact mem_idsOf.mpr (List.mem_map_of_mem (List.mem_of_mem_filter hm))

end

/-! ## The order does not matter

The aggregates of a list are those of its permutations: sums commute, and
medians are taken from sorted lists. -/

section

variable {ι : Type} [DecidableEq ι] [LE ι] [DecidableLE ι]
  [Std.Total (α := ι) (· ≤ ·)] [IsTrans ι (· ≤ ·)] [Std.Antisymm (α := ι) (· ≤ ·)]

theorem idsOf_perm {ids ids' : List ι} (h : ids.Perm ids') : idsOf ids = idsOf ids' :=
  Tally.insertionSort_congr (Tally.perm_distinct h)

end

section

variable {l l' : List ℝ} {measured measured' : List (ReprojectionObservation ℝ × ℝ)}

theorem medianOf_perm (h : l.Perm l') : medianOf l = medianOf l' := by
  unfold medianOf
  rw [Tally.insertionSort_congr h]

theorem isEmpty_perm {α : Type} {k k' : List α} (h : k.Perm k') : k.isEmpty = k'.isEmpty := by
  rw [Bool.eq_iff_iff, List.isEmpty_iff, List.isEmpty_iff, ← List.length_eq_zero_iff,
    ← List.length_eq_zero_iff, h.length_eq]

theorem meanOf_perm (h : l.Perm l') : meanOf l = meanOf l' := by
  unfold meanOf
  rw [isEmpty_perm h, h.length_eq, h.foldl_eq]

theorem rmseOf_perm (h : l.Perm l') : rmseOf l = rmseOf l' := by
  have hcomm : RightCommutative fun sum r : ℝ => sum + r * r := ⟨fun _ _ _ => by ring⟩
  unfold rmseOf
  rw [isEmpty_perm h, h.length_eq, h.foldl_eq]

theorem residualsOf_perm {ι : Type} [DecidableEq ι] (key : ReprojectionObservation ℝ → ι)
    (h : measured.Perm measured') (id : ι) :
    (residualsOf key measured id).Perm (residualsOf key measured' id) :=
  (h.filter _).map _

theorem perImage_perm (threshold : ℝ) (h : measured.Perm measured') :
    perImage threshold measured = perImage threshold measured' := by
  funext id
  have hmine := residualsOf_perm ReprojectionObservation.imageId h id
  have hin : (inliersOf threshold _).Perm (inliersOf threshold _) := hmine.filter _
  have hout : (outliersOf threshold _).Perm (outliersOf threshold _) := hmine.filter _
  unfold perImage
  simp only [rmseOf_perm hin, meanOf_perm hin, hmine.length_eq, hin.length_eq, hout.length_eq]

theorem perPoint_perm (threshold : ℝ) (h : measured.Perm measured') :
    perPoint threshold measured = perPoint threshold measured' := by
  funext id
  have hmine := residualsOf_perm ReprojectionObservation.point3dId h id
  have hin : (inliersOf threshold _).Perm (inliersOf threshold _) := hmine.filter _
  unfold perPoint
  simp only [meanOf_perm hin, hmine.length_eq, hin.length_eq]

/-- The metrics see the measured observations only, not their order. -/
theorem metricsOf_perm (h : measured.Perm measured') : metricsOf measured = metricsOf measured' := by
  have hresiduals := h.map Prod.snd
  have hin : ∀ t, (inliersOf t (measured.map Prod.snd)).Perm (inliersOf t (measured'.map Prod.snd)) :=
    fun t => hresiduals.filter _
  have hout : ∀ t, (outliersOf t (measured.map Prod.snd)).Perm
      (outliersOf t (measured'.map Prod.snd)) := fun t => hresiduals.filter _
  unfold metricsOf
  simp only [medianOf_perm hresiduals, rmseOf_perm (hin _), meanOf_perm (hin _),
    hresiduals.length_eq, (hin _).length_eq, (hout _).length_eq, perImage_perm _ h,
    perPoint_perm _ h, idsOf_perm (h.map (·.1.imageId)), idsOf_perm (h.map (·.1.point3dId))]

end

/-! ## Half of the observations are inliers -/

theorem le_reprojectionThreshold (median : ℝ) : median ≤ reprojectionThreshold median := by
  show median ≤ if (2.0 : ℝ) < 3.0 * median then 3.0 * median else 2.0
  split_ifs with hlarge <;> norm_num at hlarge ⊢ <;> linarith

/-- Of sorted errors, one that is at most the median has half of them up to it. -/
theorem exists_le_medianOfSorted {sorted : List ℝ} (hpos : 0 < sorted.length)
    (hsorted : sorted.Pairwise (· ≤ ·)) :
    ∃ i, ∃ hi : i < sorted.length,
      sorted.length ≤ 2 * (i + 1) ∧ sorted[i] ≤ medianOfSorted sorted := by
  have hj : sorted.length / 2 < sorted.length := by omega
  unfold medianOfSorted
  simp only [if_neg hpos.ne', List.getD_eq_getElem sorted (0.0 : ℝ) hj]
  split_ifs with heven
  · have hi : sorted.length / 2 - 1 < sorted.length := by omega
    have hle := List.pairwise_iff_getElem.mp hsorted _ _ hi hj (by omega)
    rw [List.getD_eq_getElem sorted (0.0 : ℝ) hi]
    refine ⟨sorted.length / 2 - 1, hi, by omega, ?_⟩
    norm_num
    linarith
  · exact ⟨sorted.length / 2, hj, by omega, le_rfl⟩

theorem half_inliersOf (residuals : List ℝ) :
    residuals.length ≤
      2 * (inliersOf (reprojectionThreshold (medianOf residuals)) residuals).length := by
  have hperm := List.perm_insertionSort (fun a b : ℝ => a ≤ b) residuals
  have hsorted := List.pairwise_insertionSort (fun a b : ℝ => a ≤ b) residuals
  by_cases hsome : residuals.length = 0
  · omega
  · obtain ⟨i, hi, hhalf, hle⟩ := exists_le_medianOfSorted (by rw [hperm.length_eq]; omega) hsorted
    have hcount : i + 1 ≤ (inliersOf (reprojectionThreshold (medianOf residuals))
        (residuals.insertionSort (· ≤ ·))).length :=
      (Tally.succ_le_length_filter hsorted hi (hle.trans (le_reprojectionThreshold _))).trans_eq
        (congrArg List.length (List.filter_congr fun r _ => decide_eq_decide.mpr Iff.rfl))
    have hsame : (inliersOf (reprojectionThreshold (medianOf residuals))
        (residuals.insertionSort (· ≤ ·))).Perm
        (inliersOf (reprojectionThreshold (medianOf residuals)) residuals) := hperm.filter _
    rw [hperm.length_eq] at hhalf
    rw [hsame.length_eq] at hcount
    omega

/-! ## The evaluation

The laws of an evaluation as a whole. Counts and sums are those of a list of
residuals, which a change of the order permutes. -/

/-- How the counts of an evaluation go together. -/
structure Balanced (metrics : ReprojectionMetrics ℝ) (observed : ℕ) : Prop where
  counted : metrics.totalCount = observed
  classified : metrics.inlierCount + metrics.outlierCount = metrics.totalCount
  imageTotals : (metrics.perImage.map PerImageReprojection.totalCount).sum = metrics.totalCount
  imageInliers : (metrics.perImage.map PerImageReprojection.inlierCount).sum = metrics.inlierCount
  imageOutliers : (metrics.perImage.map PerImageReprojection.outlierCount).sum = metrics.outlierCount
  pointTotals : (metrics.perPoint.map PerPointReprojection.totalCount).sum = metrics.totalCount
  pointInliers : (metrics.perPoint.map PerPointReprojection.inlierCount).sum = metrics.inlierCount
  half : metrics.totalCount ≤ 2 * metrics.inlierCount

theorem balanced_metricsOf (measured : List (ReprojectionObservation ℝ × ℝ)) :
    Balanced (metricsOf measured) measured.length := by
  have hall : ∀ residuals : List ℝ, residuals.filter (fun _ => true) = residuals := fun residuals =>
    List.filter_eq_self.mpr fun _ _ => rfl
  have htotals := fun {ι : Type} [DecidableEq ι] [LE ι] [DecidableLE ι]
      (key : ReprojectionObservation ℝ → ι) => sum_residualsOf key measured fun _ => true
  simp only [hall] at htotals
  exact {
    counted := List.length_map ..
    classified := length_inliersOf_add _ _
    imageTotals := by
      rw [metricsOf, List.map_map]
      exact htotals ReprojectionObservation.imageId
    imageInliers := by
      rw [metricsOf, List.map_map]
      exact sum_residualsOf ReprojectionObservation.imageId measured _
    imageOutliers := by
      rw [metricsOf, List.map_map]
      exact sum_residualsOf ReprojectionObservation.imageId measured _
    pointTotals := by
      rw [metricsOf, List.map_map]
      exact htotals ReprojectionObservation.point3dId
    pointInliers := by
      rw [metricsOf, List.map_map]
      exact sum_residualsOf ReprojectionObservation.point3dId measured _
    half := half_inliersOf _ }

section

variable {M : Type} {models : CameraModels M ℝ} {views views' : List (CameraView M ℝ)}
  {points points' : List (UInt64 × Vector ℝ 3)}
  {observations observations' : List (ReprojectionObservation ℝ)}

theorem measure_perm (models : CameraModels M ℝ) (hviews : (views.map CameraView.imageId).Nodup)
    (hpoints : (points.map Prod.fst).Nodup) (hviews' : views.Perm views')
    (hpoints' : points.Perm points') :
    measure models views points = measure models views' points' := by
  funext obs
  unfold measure
  rw [find?_key_perm CameraView.imageId hviews' hviews, find?_key_perm Prod.fst hpoints' hpoints]

theorem evaluateReprojection_eq_ok {result : ReprojectionMetrics ℝ × List (ReprojectionResidual ℝ)}
    (h : evaluateReprojection models views points observations = .ok result) :
    ∃ measured, observations.mapM (measure models views points) = .ok measured ∧
      result.1 = metricsOf measured := by
  obtain ⟨measured, hmeasured, h⟩ := bind_eq_ok h
  cases h
  exact ⟨measured, hmeasured, rfl⟩

/-- What comes out of the observations comes out of them in any order. -/
theorem evaluateReprojection_perm (hperm : observations'.Perm observations)
    {result : ReprojectionMetrics ℝ × List (ReprojectionResidual ℝ)}
    (h : evaluateReprojection models views points observations = .ok result) :
    ∃ result', evaluateReprojection models views points observations' = .ok result' ∧
      result'.1 = result.1 := by
  obtain ⟨measured, hmeasured, hmetrics⟩ := evaluateReprojection_eq_ok h
  obtain ⟨measured', hmeasured', hperm'⟩ := mapM_perm hperm hmeasured
  refine ⟨_, bind_eq_ok_iff.mpr ⟨measured', hmeasured', rfl⟩, ?_⟩
  rw [hmetrics]
  exact metricsOf_perm hperm'

end

/-- The counts of every evaluation go together, half of the observations are
inliers, and the order of observations, views and points of different ids does
not matter: any order has the same metrics, or none. -/
theorem evaluateReprojection_law {M : Type} (models : CameraModels M ℝ)
    {views : List (CameraView M ℝ)} {points : List (UInt64 × Vector ℝ 3)}
    (hviews : (views.map CameraView.imageId).Nodup) (hpoints : (points.map Prod.fst).Nodup)
    (observations : List (ReprojectionObservation ℝ)) :
    (∀ metrics residuals,
      evaluateReprojection models views points observations = .ok (metrics, residuals) →
      Balanced metrics observations.length) ∧
    ∀ views' points' observations', views.Perm views' → points.Perm points' →
      observations.Perm observations' →
      (evaluateReprojection models views' points' observations').toOption.map Prod.fst =
        (evaluateReprojection models views points observations).toOption.map Prod.fst := by
  constructor
  · intro metrics residuals h
    obtain ⟨measured, hmeasured, rfl⟩ := evaluateReprojection_eq_ok h
    rw [(mapM_eq_ok_iff.mp hmeasured).length_eq]
    exact balanced_metricsOf measured
  · intro views' points' observations' hviews' hpoints' hobservations
    -- views and points are looked up by their ids, in whatever order they stand
    have hsame : ∀ l, evaluateReprojection models views' points' l =
        evaluateReprojection models views points l := fun l => by
      rw [evaluateReprojection, evaluateReprojection,
        measure_perm models hviews hpoints hviews' hpoints']
    rw [hsame]
    cases hfirst : evaluateReprojection models views points observations with
    | ok result =>
        obtain ⟨result', hresult', hmetrics⟩ := evaluateReprojection_perm hobservations.symm hfirst
        rw [hresult']
        exact congrArg some hmetrics
    | error e =>
        cases hsecond : evaluateReprojection models views points observations' with
        | error e' => rfl
        | ok result =>
            obtain ⟨result', hresult', -⟩ := evaluateReprojection_perm hobservations hsecond
            rw [hfirst] at hresult'
            cases hresult'

/-- A point that is five metres away in the direction of a pixel is seen where it should be. -/
theorem residual_pinholeAt (x : ℝ) {s : ℝ} (hs : s * s = 1) :
    computeObservationResidual cameraModels (pinholeAt x) #v[x + s * 4, 0, 3] (s * (4 / 3), 0) =
      .ok 0 := by
  have hcamera : (pinholeAt x).worldFromCamera.inverse.transformPoint #v[x + s * 4, 0, 3] =
      scale3 5 (sideRay s) := by
    unfold Rigid.inverse Rigid.transformPoint
    rw [inverse_of_unit (by simp [squaredNorm_real, pinholeAt])]
    simp only [rotateDirection_real]
    apply vec3_ext <;> simp [pinholeAt, conj, add3, neg3, scale3, sideRay] <;> ring
  have hproject : cameraModels.project (pinholeAt x).model (scale3 5 (sideRay s)) =
      .ok (s * (4 / 3), 0) :=
    CameraModel.project_unproject rfl (unproject_pinholeAt x hs) (by norm_num)
  have hfinite : ∀ pixel : ℝ × ℝ, (!isFinitePixel pixel) = false := by
    simp [isFinitePixel, Double.isFinite]
  unfold computeObservationResidual projectPoint
  simp only [hfinite, Bool.false_eq_true, if_false, hcamera, hproject]
  refine congrArg Except.ok ?_
  show Real.sqrt _ = 0
  simp

/-- The camera on the other side of the point. -/
private noncomputable def secondPinhole : CameraView (CameraModel ℝ) ℝ :=
  { pinholeAt 8 with imageId := 2 }

/-- Two cameras that see one point, and the same in the other order. -/
theorem pinholes_swapped : ∃ metrics residuals,
    evaluateReprojection cameraModels [secondPinhole, pinholeAt 0] [(1, #v[4, 0, 3])]
        [⟨2, 1, (-1 * (4 / 3), 0)⟩, ⟨1, 1, (1 * (4 / 3), 0)⟩] = .ok (metrics, residuals) ∧
    Balanced metrics 2 ∧
    (evaluateReprojection cameraModels [pinholeAt 0, secondPinhole] [(1, #v[4, 0, 3])]
        [⟨1, 1, (1 * (4 / 3), 0)⟩, ⟨2, 1, (-1 * (4 / 3), 0)⟩]).toOption.map Prod.fst = some metrics := by
  have hright : computeObservationResidual cameraModels (pinholeAt 0) #v[4, 0, 3] (1 * (4 / 3), 0) =
      .ok 0 := by
    rw [← residual_pinholeAt 0 (one_mul (1 : ℝ)), one_mul (4 : ℝ), zero_add]
  have hleft : computeObservationResidual cameraModels secondPinhole #v[4, 0, 3]
      (-1 * (4 / 3), 0) = .ok 0 := by
    rw [← residual_pinholeAt 8 (show (-1 : ℝ) * -1 = 1 by norm_num),
      show (8 : ℝ) + -1 * 4 = 4 by norm_num]
    rfl
  have hlaw := @evaluateReprojection_law _ cameraModels [secondPinhole, pinholeAt 0]
    [(1, #v[4, 0, 3])] (by simp [secondPinhole, pinholeAt]) (by simp)
    [⟨2, 1, (-1 * (4 / 3), 0)⟩, ⟨1, 1, (1 * (4 / 3), 0)⟩]
  have hsecond : measure cameraModels [secondPinhole, pinholeAt 0] [(1, #v[4, 0, 3])]
      ⟨2, 1, (-1 * (4 / 3), 0)⟩ = .ok (⟨2, 1, (-1 * (4 / 3), 0)⟩, 0) :=
    bind_eq_ok_iff.mpr ⟨0, hleft, rfl⟩
  have hfirst : measure cameraModels [secondPinhole, pinholeAt 0] [(1, #v[4, 0, 3])]
      ⟨1, 1, (1 * (4 / 3), 0)⟩ = .ok (⟨1, 1, (1 * (4 / 3), 0)⟩, 0) :=
    bind_eq_ok_iff.mpr ⟨0, hright, rfl⟩
  obtain ⟨⟨metrics, residuals⟩, hreturns⟩ : ∃ result,
      evaluateReprojection cameraModels [secondPinhole, pinholeAt 0] [(1, #v[4, 0, 3])]
        [⟨2, 1, (-1 * (4 / 3), 0)⟩, ⟨1, 1, (1 * (4 / 3), 0)⟩] = .ok result :=
    ⟨_, bind_eq_ok_iff.mpr ⟨_, mapM_eq_ok_iff.mpr (.cons hsecond (.cons hfirst .nil)), rfl⟩⟩
  refine ⟨metrics, residuals, hreturns, hlaw.1 metrics residuals hreturns, ?_⟩
  rw [hlaw.2 _ _ _ (List.Perm.swap _ _ _) (List.Perm.refl _) (List.Perm.swap _ _ _), hreturns]
  rfl

end SpatialPlatform.Core.Geometry
